/-
  Routing stacks: one for each thread, and one for each task
  that has its own.

  Key definitions include:
    * `Stack`
    * `Context`
    * `Context.current`
    * `Context.update`
    * `GuardKind`
    * `Context.release`
-/

------------------------------------------------------------
-- Stacks
------------------------------------------------------------

namespace StorageRouting

/- Routing keys, the bottom one first. -/
abbrev Stack :=
  List String

namespace Stack

/- Put a key on top. -/
def push
    (s : Stack)
    (key : String) : Stack :=
  s ++ [key]

/- Take the top key away; an empty stack stays empty. -/
def pop (s : Stack) : Stack :=
  s.dropLast

/- The top key; no preference when there is none. -/
def peek (s : Stack) : String :=
  s.getLast?.getD ""

end Stack

end StorageRouting

------------------------------------------------------------
-- Contexts
------------------------------------------------------------

namespace StorageRouting

/-
  The stack of the running thread, and the stack of the
  running task when it has one.
-/
structure Context where
  thread : Stack
  task : Option Stack
deriving DecidableEq, Repr, Inhabited

namespace Context

/- A thread that has just begun. -/
def fresh : Context :=
  ⟨[], none⟩

/- The stack in force: that of the task, else the thread's. -/
def current (c : Context) : Stack :=
  c.task.getD c.thread

/- Change the stack in force. -/
def update
    (f : Stack → Stack)
    (c : Context) : Context :=
  match c.task with
  | some s => { c with task := some (f s) }
  | none => { c with thread := f c.thread }

end Context

end StorageRouting

------------------------------------------------------------
-- Guards
------------------------------------------------------------

namespace StorageRouting

/- On which kind of stack a guard was made. -/
inductive GuardKind where
| onTask : GuardKind
| onThread : GuardKind
deriving DecidableEq, Repr

namespace Context

/- The kind of the guards that are made in a context. -/
def guardKind (c : Context) : GuardKind :=
  if c.task.isSome then .onTask else .onThread

/- Push a key that a guard takes away again. -/
def enter
    (c : Context)
    (key : String) : GuardKind × Context :=
  (c.guardKind, c.update (·.push key))

/-
  Drop a guard: the stack of its kind that is current loses
  its top key.  Outside of tasks a guard of a task does
  nothing.
-/
def release
    (kind : GuardKind)
    (c : Context) : Context :=
  match kind with
  | .onThread => { c with thread := c.thread.pop }
  | .onTask => { c with task := c.task.map Stack.pop }

end Context

end StorageRouting
