import StorageRouting.Proofs.Routing.Polling

/-
  An account of guarded keys.  A program pushes and pops keys,
  takes and drops guards in any order, and opens scopes.  Beside
  it runs an account in which every key on a stack carries the
  number of its push, so that the key of a guard can be told
  from an equal one.  In one account every guard takes the top
  of its kind of stack away: a run of the program records the
  lines of that account and ends where it does.

  Key definitions include:
    * `Tracked`
    * `Tracked.popTop`
    * `Tracked.popOwn`
    * `GuardProgram`
    * `GuardProgram.left`
    * `GuardProgram.lines`

  Main statements:
    * `Tracked.Shows.takeGuard`
    * `GuardProgram.level_left`
    * `GuardProgram.poll_met`
-/

------------------------------------------------------------
-- Numbered Stacks
------------------------------------------------------------

namespace StorageRouting

/- A key on a stack, with the number of its push. -/
structure Pushed where
  number : Nat
  key : String
deriving DecidableEq, Repr

/- A guard, with the number and the key of its push. -/
structure Guard where
  kind : GuardKind
  number : Nat
  key : String
deriving DecidableEq, Repr

/- What a guard pushed. -/
def Guard.pushed (g : Guard) : Pushed :=
  ⟨g.number, g.key⟩

/-
  The stack of the thread and those of the scopes around, the
  innermost first; the guards that are held, the latest first;
  and the number of the next push.
-/
structure Tracked where
  thread : List Pushed
  tasks : List (List Pushed)
  held : List (String × Guard)
  next : Nat
deriving DecidableEq, Repr

namespace Tracked

/- A thread that has just begun. -/
def fresh : Tracked :=
  ⟨[], [], [], 0⟩

/- All that stands on any stack. -/
def all (T : Tracked) : List Pushed :=
  T.thread ++ T.tasks.flatten

/- The stack in force. -/
def current (T : Tracked) : List Pushed :=
  T.tasks.head?.getD T.thread

/- The keys on the stack in force. -/
def stack (T : Tracked) : Stack :=
  T.current.map Pushed.key

/- The kind of the guards that are made. -/
def kind (T : Tracked) : GuardKind :=
  if T.tasks.isEmpty then .onThread else .onTask

/- The stack of a kind that is in force, if there is one. -/
def stackOf?
    (T : Tracked)
    (kind : GuardKind) : Option (List Pushed) :=
  match kind with
  | .onThread => some T.thread
  | .onTask => T.tasks.head?

/- What stands on top of the stack in force of a kind. -/
def top?
    (T : Tracked)
    (kind : GuardKind) : Option Pushed :=
  (T.stackOf? kind).bind List.getLast?

/- Change the stack in force of a kind. -/
def change
    (kind : GuardKind)
    (f : List Pushed → List Pushed)
    (T : Tracked) : Tracked :=
  match kind with
  | .onThread => { T with thread := f T.thread }
  | .onTask => { T with tasks := T.tasks.modifyHead f }

/- Push a key. -/
def push
    (key : String)
    (T : Tracked) : Tracked :=
  { T.change T.kind (· ++ [⟨T.next, key⟩]) with
    next := T.next + 1 }

/- Take the top key away. -/
def pop (T : Tracked) : Tracked :=
  T.change T.kind List.dropLast

/-
  Open a scope: its stack is a copy of the present one with a
  key above it.
-/
def openScope
    (key : String)
    (T : Tracked) : Tracked :=
  let keys := T.stack ++ [key]
  { T with
    tasks :=
      (keys.zipIdx T.next).map (fun x => ⟨x.2, x.1⟩) :: T.tasks
    next := T.next + keys.length }

/- Close the innermost scope. -/
def closeScope (T : Tracked) : Tracked :=
  { T with tasks := T.tasks.tail }

end Tracked

end StorageRouting

------------------------------------------------------------
-- Dropping Guards
------------------------------------------------------------

namespace StorageRouting

namespace Tracked

/-
  Take away what stands on top of the stack in force of the
  guard's kind.
-/
def popTop
    (g : Guard)
    (T : Tracked) : Tracked :=
  T.change g.kind List.dropLast

/- Take away what the guard pushed, wherever it stands. -/
def popOwn
    (g : Guard)
    (T : Tracked) : Tracked :=
  { T with
    thread := T.thread.filter (·.number ≠ g.number)
    tasks := T.tasks.map (·.filter (·.number ≠ g.number)) }

/- Drop the guard of a name, if it is held, by a rule. -/
def drop
    (rule : Guard → Tracked → Tracked)
    (id : String)
    (T : Tracked) : Tracked :=
  match T.held.lookup id with
  | none => T
  | some g =>
      { rule g T with held := T.held.filter (fun h => h.1 ≠ id) }

/-
  Make a guard.  An older one of the name is dropped
  afterwards.
-/
def enter
    (rule : Guard → Tracked → Tracked)
    (id key : String)
    (T : Tracked) : Tracked :=
  let entered := (T.push key).drop rule id
  { entered with
    held := (id, ⟨T.kind, T.next, key⟩) :: entered.held }

end Tracked

end StorageRouting

------------------------------------------------------------
-- Programs with Guards
------------------------------------------------------------

namespace StorageRouting

/-
  A program that pushes and pops keys, takes and drops guards,
  and opens scopes.
-/
inductive GuardProgram where
| done : GuardProgram
| push (key : String) (rest : GuardProgram) : GuardProgram
| pop (rest : GuardProgram) : GuardProgram
| enter (id key : String) (rest : GuardProgram) : GuardProgram
| drop (id : String) (rest : GuardProgram) : GuardProgram
| scope
    (key : String)
    (body rest : GuardProgram) : GuardProgram

namespace GuardProgram

/- The program itself. -/
def program
    {β : Type} :
    GuardProgram → Program β
| .done => .done
| .push key rest => .act (.stack (.push key)) rest.program
| .pop rest => .act (.stack .pop) rest.program
| .enter id key rest =>
    .act (.stack (.guard id key)) rest.program
| .drop id rest => .act (.stack (.drop id)) rest.program
| .scope key body rest =>
    .block (.scope key) body.program rest.program

/- Where a program comes to whose guards follow a rule. -/
def left
    (rule : Guard → Tracked → Tracked) :
    GuardProgram → Tracked → Tracked
| .done, T => T
| .push key rest, T => rest.left rule (T.push key)
| .pop rest, T => rest.left rule T.pop
| .enter id key rest, T => rest.left rule (T.enter rule id key)
| .drop id rest, T => rest.left rule (T.drop rule id)
| .scope key body rest, T =>
    rest.left rule
      (body.left rule (T.openScope key)).closeScope

/- What such a program records, in order. -/
def lines
    {β α : Type}
    (rule : Guard → Tracked → Tracked) :
    GuardProgram → Tracked → List (Entry β α)
| .done, _ => []
| .push key rest, T =>
    let T := T.push key
    .stack (.push key) (.keys T.stack) :: rest.lines rule T
| .pop rest, T =>
    let T := T.pop
    .stack .pop (.keys T.stack) :: rest.lines rule T
| .enter id key rest, T =>
    let T := T.enter rule id key
    .stack (.guard id key) (.keys T.stack) :: rest.lines rule T
| .drop id rest, T =>
    let T := T.drop rule id
    .stack (.drop id) (.keys T.stack) :: rest.lines rule T
| .scope key body rest, T =>
    let inner := T.openScope key
    let T := (body.left rule inner).closeScope
    body.lines rule inner ++
      .ended (.scope key) T.stack none :: rest.lines rule T

end GuardProgram

end StorageRouting

------------------------------------------------------------
-- The Account and the Machine
------------------------------------------------------------

namespace StorageRouting

namespace Tracked

/- The stacks of the account without the numbers. -/
def context (T : Tracked) : Context :=
  ⟨T.thread.map Pushed.key,
    T.tasks.head?.map (·.map Pushed.key)⟩

/- The guards of the account without the numbers. -/
def guards (T : Tracked) : List (String × GuardKind) :=
  T.held.map (fun h => (h.1, h.2.kind))

/- An account shows a machine: it has its stacks and guards. -/
structure Shows
    {β α ω : Type}
    (T : Tracked)
    (m : Machine β α ω) : Prop where
  context : m.context = T.context
  guards : m.guards = T.guards

/- The stack in force is that of the account. -/
theorem current_context (T : Tracked) :
    T.context.current = T.stack := by
  rcases T with ⟨thread, tasks, held, next⟩
  cases tasks <;> rfl

/- Guards are made on the kind of stack that is in force. -/
theorem guardKind_context (T : Tracked) :
    T.context.guardKind = T.kind := by
  rcases T with ⟨thread, tasks, held, next⟩
  cases tasks <;> rfl

/- A push in the account is one of its stacks. -/
theorem context_push
    (T : Tracked)
    (key : String) :
    (T.push key).context = T.context.update (·.push key) := by
  rcases T with ⟨thread, tasks, held, next⟩
  cases tasks <;>
    simp [push, change, kind, context, Context.update,
      Stack.push]

/- A pop in the account is one of its stacks. -/
theorem context_pop (T : Tracked) :
    T.pop.context = T.context.update Stack.pop := by
  rcases T with ⟨thread, tasks, held, next⟩
  cases tasks <;>
    simp [pop, change, kind, context, Context.update, Stack.pop,
      List.map_dropLast]

/- To drop a guard takes the top of its kind of stack away. -/
theorem context_popTop
    (T : Tracked)
    (g : Guard) :
    (T.popTop g).context = T.context.release g.kind := by
  rcases T with ⟨thread, tasks, held, next⟩
  rcases g with ⟨kind, number, key⟩
  cases kind with
  | onThread =>
      simp [popTop, change, context, Context.release, Stack.pop,
        List.map_dropLast]
  | onTask =>
      cases tasks <;>
        simp [popTop, change, context, Context.release,
          Stack.pop, List.map_dropLast]

/- A scope begins with the keys of the stack around it. -/
theorem context_openScope
    (T : Tracked)
    (key : String) :
    (T.openScope key).context =
      { T.context with task := some (T.stack ++ [key]) } := by
  simp [openScope, context, List.map_map, Function.comp_def]

/- Guards that are looked up are those of the account. -/
theorem lookup_guards
    (T : Tracked)
    (id : String) :
    T.guards.lookup id = (T.held.lookup id).map Guard.kind := by
  unfold guards
  induction T.held with
  | nil => rfl
  | cons h held ih =>
      rcases h with ⟨name, g⟩
      by_cases hSame : id = name
      · simp [hSame]
      · have hOther : (id == name) = false := by simp [hSame]
        simpa [List.lookup_cons, hOther] using ih

/- Guards of other names are those of the account. -/
theorem filter_guards
    (T : Tracked)
    (id : String) :
    T.guards.filter (fun g => g.1 ≠ id) =
      (T.held.filter (fun h => h.1 ≠ id)).map
        (fun h => (h.1, h.2.kind)) := by
  unfold guards
  rw [List.filter_map]
  rfl

/- What stands on the stacks does not depend on the guards. -/
@[simp] theorem context_held
    (T : Tracked)
    (held : List (String × Guard)) :
    { T with held }.context = T.context :=
  rfl

/- A change of a stack leaves the guards. -/
@[simp] theorem held_change
    (kind : GuardKind)
    (f : List Pushed → List Pushed)
    (T : Tracked) : (T.change kind f).held = T.held := by
  cases kind <;> rfl

/- The account of a push is the machine's. -/
theorem Shows.push
    {β α ω : Type}
    {T : Tracked}
    {m : Machine β α ω}
    (h : T.Shows m)
    (key : String) :
    (T.push key).Shows (m.onStack (·.push key)) where
  context := by
    rw [T.context_push, ← h.context]
    rfl
  guards := by
    refine h.guards.trans ?_
    simp [Tracked.guards, Tracked.push]

/- The account of a pop is the machine's. -/
theorem Shows.pop
    {β α ω : Type}
    {T : Tracked}
    {m : Machine β α ω}
    (h : T.Shows m) : T.pop.Shows (m.onStack Stack.pop) where
  context := by
    rw [T.context_pop, ← h.context]
    rfl
  guards := by
    refine h.guards.trans ?_
    simp [Tracked.guards, Tracked.pop]

/- The account of a drop is the machine's. -/
theorem Shows.dropGuard
    {β α ω : Type}
    {T : Tracked}
    {m : Machine β α ω}
    (h : T.Shows m)
    (id : String) :
    (T.drop popTop id).Shows (m.dropGuard id) := by
  unfold drop Machine.dropGuard
  rw [h.guards, T.lookup_guards]
  cases T.held.lookup id with
  | none => exact h
  | some g =>
      refine ⟨?_, ?_⟩
      · rw [context_held, context_popTop, ← h.context]
        rfl
      · exact T.filter_guards id

/- The account of a guard that is made is the machine's. -/
theorem Shows.takeGuard
    {β α ω : Type}
    {T : Tracked}
    {m : Machine β α ω}
    (h : T.Shows m)
    (id key : String) :
    (T.enter popTop id key).Shows (m.takeGuard id key) := by
  have hDropped := (h.push key).dropGuard id
  refine ⟨hDropped.context, ?_⟩
  have hKind : (m.context.enter key).1 = T.kind := by
    rw [h.context]
    exact T.guardKind_context
  have hGuards := hDropped.guards
  simp only [Machine.takeGuard, hKind]
  exact congrArg (_ :: ·) hGuards

/- What is told of the stack in force is what the account has. -/
theorem Shows.keysAnswer
    {β α ω : Type}
    {T : Tracked}
    {m : Machine β α ω}
    (h : T.Shows m) : m.keysAnswer = .keys T.stack := by
  rw [Machine.keysAnswer, h.context, current_context]

end Tracked

end StorageRouting

------------------------------------------------------------
-- Scopes in the Account
------------------------------------------------------------

namespace StorageRouting

namespace Tracked

/-
  One account is level with another: as many scopes are open,
  and the stacks around the innermost are the same.
-/
structure Level (T U : Tracked) : Prop where
  around : U.tasks.tail = T.tasks.tail
  isEmpty : U.tasks.isEmpty = T.tasks.isEmpty

/- An account is level with itself. -/
theorem Level.refl (T : Tracked) : T.Level T :=
  ⟨rfl, rfl⟩

/- Being level goes on. -/
theorem Level.trans
    {T U V : Tracked}
    (hLeft : T.Level U)
    (hRight : U.Level V) : T.Level V :=
  ⟨hRight.around.trans hLeft.around,
    hRight.isEmpty.trans hLeft.isEmpty⟩

/- A change of a stack in force is level. -/
theorem level_change
    (kind : GuardKind)
    (f : List Pushed → List Pushed)
    (T : Tracked) : T.Level (T.change kind f) := by
  rcases T with ⟨thread, tasks, held, next⟩
  cases kind <;> cases tasks <;> exact ⟨rfl, rfl⟩

/- A push is level. -/
theorem level_push
    (key : String)
    (T : Tracked) : T.Level (T.push key) :=
  ⟨(T.level_change T.kind _).around,
    (T.level_change T.kind _).isEmpty⟩

/- To drop a guard is level. -/
theorem level_drop
    (id : String)
    (T : Tracked) : T.Level (T.drop popTop id) := by
  unfold drop
  cases T.held.lookup id with
  | none => exact .refl T
  | some g =>
      have hPopped := T.level_change g.kind List.dropLast
      exact ⟨hPopped.around, hPopped.isEmpty⟩

/- To make a guard is level. -/
theorem level_enter
    (id key : String)
    (T : Tracked) : T.Level (T.enter popTop id key) :=
  have hBoth := (T.level_push key).trans (level_drop id _)
  ⟨hBoth.around, hBoth.isEmpty⟩

/-
  A scope that is closed where its program comes to leaves the
  scopes around as they were.
-/
theorem Level.tasks_closeScope
    {T U : Tracked}
    {key : String}
    (h : (T.openScope key).Level U) :
    U.closeScope.tasks = T.tasks :=
  h.around

end Tracked

/- Every program is level from its start to its end. -/
theorem GuardProgram.level_left
    (t : GuardProgram)
    (T : Tracked) : T.Level (t.left Tracked.popTop T) := by
  induction t generalizing T with
  | done => exact .refl T
  | push key rest ih => exact (T.level_push key).trans (ih _)
  | pop rest ih => exact (T.level_change T.kind _).trans (ih _)
  | enter id key rest ih =>
      exact (T.level_enter id key).trans (ih _)
  | drop id rest ih => exact (T.level_drop id).trans (ih _)
  | scope key body rest ihBody ihRest =>
      have hTasks := (ihBody (T.openScope key)).tasks_closeScope
      have hClosed :
          T.Level
            (body.left Tracked.popTop
              (T.openScope key)).closeScope :=
        ⟨congrArg List.tail hTasks, congrArg List.isEmpty hTasks⟩
      exact hClosed.trans (ihRest _)

end StorageRouting

------------------------------------------------------------
-- Running a Program
------------------------------------------------------------

namespace StorageRouting

variable {β α ω : Type}

/-
  A run from a machine comes to an account: it ends, its machine
  is the one shown, and its record grows by the lines.
-/
structure Tracked.Met
    (T : Tracked)
    (lines : List (Entry β α))
    (m : Machine β α ω)
    (r : Outcome β × Machine β α ω) : Prop where
  outcome : r.1 = .finished
  shows : T.Shows r.2
  record : r.2.record = lines.reverse ++ m.record

/- To drop a guard records nothing by itself. -/
theorem Machine.record_dropGuard
    (m : Machine β α ω)
    (id : String) : (m.dropGuard id).record = m.record := by
  unfold Machine.dropGuard
  split <;> rfl

namespace Tracked

/- An account does not depend on the record. -/
theorem Shows.log
    {T : Tracked}
    {m : Machine β α ω}
    (h : T.Shows m)
    (e : Entry β α) : T.Shows (m.log e) :=
  ⟨h.context, h.guards⟩

/- A program that acts on the stack and then goes on. -/
theorem Met.act
    {outside : Outside β α ω}
    {sync : Bool}
    {m m' : Machine β α ω}
    {a : StackAction}
    {T later : Tracked}
    {lines : List (Entry β α)}
    {rest : Program β}
    (hRun : m.runStack a = (m'.keysAnswer, m'))
    (hRecord : m'.record = m.record)
    (hShows : T.Shows m')
    (hRest :
      ∀ m : Machine β α ω, T.Shows m →
        later.Met lines m (rest.poll outside sync m)) :
    later.Met (.stack a (.keys T.stack) :: lines) m
      ((Program.act (.stack a) rest).poll outside sync m) := by
  have hLogged :
      m.run outside (.stack a) =
        m'.log (.stack a (.keys T.stack)) := by
    simp only [Machine.run, hRun, hShows.keysAnswer]
  rw [Program.poll, hLogged]
  have hLater := hRest _ (hShows.log (.stack a (.keys T.stack)))
  refine ⟨hLater.outcome, hLater.shows, ?_⟩
  rw [hLater.record]
  simp [Machine.log, hRecord]

/- A program that opens a scope and goes on behind it. -/
theorem Met.scope
    {outside : Outside β α ω}
    {sync : Bool}
    {m : Machine β α ω}
    {key : String}
    {T inner later : Tracked}
    {within lines : List (Entry β α)}
    {body rest : Program β}
    (hShows : T.Shows m)
    (hLevel : (T.openScope key).Level inner)
    (hBody :
      ∀ m : Machine β α ω, (T.openScope key).Shows m →
        inner.Met within m (body.poll outside sync m))
    (hRest :
      ∀ m : Machine β α ω, inner.closeScope.Shows m →
        later.Met lines m (rest.poll outside sync m)) :
    later.Met
      (within ++
        .ended (.scope key) inner.closeScope.stack none :: lines)
      m
      ((Program.block (.scope key) body rest).poll outside
        sync m) := by
  let frame : Frame := .own (m.above key)
  have hInside :
      (T.openScope key).Shows
        { m with context := frame.inside m.context } := by
    refine ⟨?_, hShows.guards⟩
    rw [T.context_openScope, ← T.current_context,
      ← hShows.context]
    rfl
  have hInner := hBody _ hInside
  have hNotGiven : ∀ keys, frame ≠ .given keys := by
    simp [frame]
  have hMachine :=
    frame.machine_within sync m
      (fun s m => body.poll outside s m)
  have hOutcome :=
    Frame.outcome_within hNotGiven sync m
      (fun s m => body.poll outside s m)
  have hOpened : m.openBlock (.scope key) = (frame, m) := rfl
  rw [Program.poll_block, Program.poll_begun, hOpened]
  generalize
    frame.within sync m (fun s m => body.poll outside s m) = p
    at hMachine hOutcome ⊢
  have hFinished : p.outcome = .finished :=
    hOutcome.trans hInner.outcome
  have hRecord :
      p.machine.record = within.reverse ++ m.record := by
    rw [hMachine]
    exact hInner.record
  -- The frame puts the stack back that the account had outside.
  have hClosed : inner.closeScope.Shows p.machine := by
    have hTasks : inner.closeScope.tasks = T.tasks :=
      hLevel.tasks_closeScope
    have hThread :
        p.machine.context.thread =
          inner.thread.map Pushed.key := by
      rw [hMachine]
      exact congrArg Context.thread hInner.shows.context
    have hTask : p.machine.context.task = m.context.task := by
      rw [hMachine]
      rfl
    refine ⟨?_, ?_⟩
    · rw [context, hTasks, Context.mk.injEq]
      refine ⟨hThread, ?_⟩
      rw [hTask, hShows.context]
      rfl
    · rw [hMachine]
      exact hInner.shows.guards
  have hEnd :
      p.machine.logEnd (.scope key) none =
        p.machine.log
          (.ended (.scope key) inner.closeScope.stack none) := by
    rw [Machine.logEnd, hClosed.context, current_context]
  have hSettled :
      p.settle (.scope key) rest
          (fun m => rest.poll outside sync m) =
        rest.poll outside sync
          (p.machine.logEnd (.scope key) none) := by
    simp only [Polled.settle, hFinished]
  rw [hSettled, hEnd]
  have hLater :=
    hRest _
      (hClosed.log
        (.ended (.scope key) inner.closeScope.stack none))
  refine ⟨hLater.outcome, hLater.shows, ?_⟩
  rw [hLater.record]
  simp [Machine.log, hRecord]

end Tracked

/- A program comes to its account when it is polled. -/
theorem GuardProgram.poll_met
    (outside : Outside β α ω)
    (sync : Bool)
    (t : GuardProgram)
    {T : Tracked}
    {m : Machine β α ω}
    (h : T.Shows m) :
    (t.left Tracked.popTop T).Met (t.lines Tracked.popTop T) m
      (t.program.poll outside sync m) := by
  induction t generalizing T m with
  | done =>
      rw [program, Program.poll]
      exact ⟨rfl, h, rfl⟩
  | push key rest ih =>
      exact .act rfl rfl (h.push key) (fun m => ih)
  | pop rest ih =>
      exact .act rfl rfl h.pop (fun m => ih)
  | enter id key rest ih =>
      have hRecord : (m.takeGuard id key).record = m.record :=
        Machine.record_dropGuard _ id
      exact .act rfl hRecord (h.takeGuard id key) (fun m => ih)
  | drop id rest ih =>
      have hRecord := m.record_dropGuard id
      exact .act rfl hRecord (h.dropGuard id) (fun m => ih)
  | scope key body rest ihBody ihRest =>
      have hLevel := body.level_left (T.openScope key)
      exact .scope h hLevel (fun m => ihBody) (fun m => ihRest)

end StorageRouting
