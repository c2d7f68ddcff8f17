import StorageRouting.Routing.Interceptor
import StorageRouting.Routing.Stack

/-
  Programs that route calls: nested calls and scopes, joined
  tasks that give way to each other, failures and panics.

  Key definitions include:
    * `StackAction`
    * `RouteAction`
    * `Block`
    * `Program`
    * `Program.yields`
-/

------------------------------------------------------------
-- Actions
------------------------------------------------------------

namespace StorageRouting

/- What a program does to the routing stack. -/
inductive StackAction where
| push (key : String) : StackAction
| pop : StackAction
| peek : StackAction
| depth : StackAction
| snapshot : StackAction
| guard (id key : String) : StackAction
| drop (id : String) : StackAction
deriving DecidableEq, Repr

/- What a program sees of the routing stack. -/
inductive StackAnswer where
| keys (stack : Stack) : StackAnswer
| top (key : String) : StackAnswer
| depth (n : Nat) : StackAnswer
deriving DecidableEq, Repr

/- What a program asks about keys of calls. -/
inductive RouteAction where
| findKey (site : CallSite) : RouteAction
| keyFor (site : CallSite) (call : Invocation) : RouteAction
| determineKey
    (literal : String)
    (call : Invocation) : RouteAction
| cachedSites : RouteAction

/- What a program is told about keys of calls. -/
inductive RouteAnswer where
| key (found : Option String) : RouteAnswer
| count (n : Nat) : RouteAnswer
deriving DecidableEq, Repr

/-
  An action of a program: on the stack, on the keys of calls,
  or one of its own kind.
-/
inductive Act (β : Type) where
| stack (a : StackAction) : Act β
| route (a : RouteAction) : Act β
| outside (b : β) : Act β

end StorageRouting

------------------------------------------------------------
-- Programs
------------------------------------------------------------

namespace StorageRouting

/- A block around the body of a program. -/
inductive Block where
| attempt : Block
| recover : Block
| scope (key : String) : Block
| syncScope (key : String) : Block
| invoke (site : CallSite) (call : Invocation) : Block
| invokeBlocking (site : CallSite) (call : Invocation) : Block
| invokeKey (literal : String) (call : Invocation) : Block
| thread : Block
| cancel (key : String) : Block

/-
  What a block that has begun does to the stack: nothing, a
  stack of its own that is kept while the block gives way, or
  a key held by a guard; a body may run without giving way,
  on a new thread, or be given up when it first gives way.
-/
inductive Frame where
| plain : Frame
| own (keys : Stack) : Frame
| given (keys : Stack) : Frame
| guarded (key : String) : Frame
| straight : Frame
| newThread : Frame

mutual

/-
  A program over actions of its own kind.  `begun` is the rest
  of a block that gave way.
-/
inductive Program (β : Type) where
| done : Program β
| act (a : Act β) (rest : Program β) : Program β
| yield (rest : Program β) : Program β
| fail (message : String) : Program β
| panic (message : String) : Program β
| block (b : Block) (body rest : Program β) : Program β
| begun
    (b : Block)
    (frame : Frame)
    (body rest : Program β) : Program β
| join (branches : Branches β) (rest : Program β) : Program β

/- Programs that run side by side. -/
inductive Branches (β : Type) where
| nil : Branches β
| cons (first : Program β) (others : Branches β) : Branches β

end

namespace Program

variable {β : Type}

instance : Inhabited (Program β) :=
  ⟨.done⟩

end Program

end StorageRouting

------------------------------------------------------------
-- Giving Way
------------------------------------------------------------

namespace StorageRouting

mutual

/- How often a program can give way. -/
def Program.yields
    {β : Type} :
    Program β → Nat
| .done => 0
| .act _ rest => rest.yields
| .yield rest => rest.yields + 1
| .fail _ => 0
| .panic _ => 0
| .block _ body rest => body.yields + rest.yields
| .begun _ _ body rest => body.yields + rest.yields
| .join branches rest => branches.yields + rest.yields

/- How often branches can give way, taken together. -/
def Branches.yields
    {β : Type} :
    Branches β → Nat
| .nil => 0
| .cons first others => first.yields + others.yields

end

namespace Branches

variable {β : Type}

/- Branches of a list. -/
def ofList : List (Program β) → Branches β
| [] => .nil
| p :: ps => .cons p (ofList ps)

end Branches

end StorageRouting
