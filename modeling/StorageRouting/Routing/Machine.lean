import StorageRouting.Routing.Program

/-
  How programs run: one poll takes a program up to where it
  gives way, fails, panics or ends.

  Key definitions include:
    * `Machine`
    * `Entry`
    * `Outcome`
    * `Program.poll`
    * `Program.run`
-/

------------------------------------------------------------
-- Machines
------------------------------------------------------------

namespace StorageRouting

/- One line of the record of a run. -/
inductive Entry (β α : Type) where
| stack (a : StackAction) (answer : StackAnswer) : Entry β α
| route (a : RouteAction) (answer : RouteAnswer) : Entry β α
| outside (b : β) (answer : α) : Entry β α
| ended
    (b : Block)
    (after : Stack)
    (failure : Option String) : Entry β α
| joined
    (after : Stack)
    (failure : Option String) : Entry β α

/-
  The state of a run: the stacks, the guards that are held, the
  keys of calls, the record so far, the latest line first, and
  a state of the program's own kind.
-/
structure Machine (β α ω : Type) where
  context : Context
  guards : List (String × GuardKind)
  interceptor : Interceptor
  record : List (Entry β α)
  world : ω

namespace Machine

variable {β α ω : Type}

/- The start of a run. -/
def start
    (interceptor : Interceptor)
    (world : ω) : Machine β α ω :=
  { context := Context.fresh, guards := []
    interceptor, record := [], world }

/- Add a line to the record. -/
def log
    (m : Machine β α ω)
    (e : Entry β α) : Machine β α ω :=
  { m with record := e :: m.record }

/- Record that a block ended. -/
def logEnd
    (m : Machine β α ω)
    (b : Block)
    (failure : Option String) : Machine β α ω :=
  m.log (.ended b m.context.current failure)

/- Drop the guard of a name, if it is held. -/
def dropGuard
    (m : Machine β α ω)
    (id : String) : Machine β α ω :=
  match m.guards.lookup id with
  | none => m
  | some kind =>
      { m with
        context := m.context.release kind
        guards := m.guards.filter (fun g => g.1 ≠ id) }

/-
  Make a guard.  An older one of the name is dropped
  afterwards.
-/
def takeGuard
    (m : Machine β α ω)
    (id key : String) : Machine β α ω :=
  let (kind, context) := m.context.enter key
  let m := dropGuard { m with context } id
  { m with guards := (id, kind) :: m.guards }

/- Change the stack in force. -/
def onStack
    (m : Machine β α ω)
    (f : Stack → Stack) : Machine β α ω :=
  { m with context := m.context.update f }

/- The stack in force, as an answer. -/
def keysAnswer (m : Machine β α ω) : StackAnswer :=
  .keys m.context.current

/- Carry out an action on the stack. -/
def runStack
    (m : Machine β α ω) :
    StackAction → StackAnswer × Machine β α ω
| .push key =>
    let m := m.onStack (·.push key)
    (m.keysAnswer, m)
| .pop =>
    let m := m.onStack Stack.pop
    (m.keysAnswer, m)
| .peek => (.top m.context.current.peek, m)
| .depth => (.depth m.context.current.length, m)
| .snapshot => (m.keysAnswer, m)
| .guard id key =>
    let m := m.takeGuard id key
    (m.keysAnswer, m)
| .drop id =>
    let m := m.dropGuard id
    (m.keysAnswer, m)

/- Carry out an action on the keys of calls. -/
def runRoute
    (m : Machine β α ω) :
    RouteAction → RouteAnswer × Machine β α ω
| .findKey site =>
    let (key, interceptor) := m.interceptor.findKey site
    (.key key, { m with interceptor })
| .keyFor site call =>
    let (key, interceptor) := m.interceptor.keyFor site call
    (.key key, { m with interceptor })
| .determineKey literal call =>
    (.key (some (m.interceptor.determineKey literal call)), m)
| .cachedSites =>
    (.count m.interceptor.routes.cachedSites, m)

end Machine

end StorageRouting

------------------------------------------------------------
-- Actions and Frames
------------------------------------------------------------

namespace StorageRouting

/-
  How the actions of the program's own kind work: they see the
  stack in force and a state of their own.
-/
abbrev Outside (β α ω : Type) :=
  β → Stack → ω → α × ω

namespace Machine

variable {β α ω : Type}

/- Carry out an action and record it. -/
def run
    (outside : Outside β α ω)
    (m : Machine β α ω) :
    Act β → Machine β α ω
| .stack a =>
    let (answer, m) := m.runStack a
    m.log (.stack a answer)
| .route a =>
    let (answer, m) := m.runRoute a
    m.log (.route a answer)
| .outside b =>
    let (answer, world) :=
      outside b m.context.current m.world
    Machine.log { m with world } (.outside b answer)

/- The stack of a block that puts a key above the present one. -/
def above
    (m : Machine β α ω)
    (key : String) : Stack :=
  m.context.current.push key

/- Begin a block: its frame is settled when it first runs. -/
def openBlock
    (m : Machine β α ω) :
    Block → Frame × Machine β α ω
| .attempt => (.plain, m)
| .recover => (.plain, m)
| .scope key => (.own (m.above key), m)
| .syncScope key => (.guarded key, m)
| .invoke site call =>
    let (key, interceptor) := m.interceptor.keyFor site call
    (match key with
      | some key => .own (m.above key)
      | none => .plain, { m with interceptor })
| .invokeBlocking site call =>
    let (key, interceptor) := m.interceptor.keyFor site call
    (match key with
      | some key => .guarded key
      | none => .straight, { m with interceptor })
| .invokeKey literal call =>
    let key := m.interceptor.determineKey literal call
    (.own (m.above key), m)
| .thread => (.newThread, m)
| .cancel key => (.given (m.above key), m)

end Machine

/- How a poll ends. -/
inductive Outcome (β : Type) where
| finished : Outcome β
| failed (message : String) : Outcome β
| panicked (message : String) : Outcome β
| waiting (rest : Program β) : Outcome β

/- What came of a body: its outcome, its frame, and the state. -/
structure Polled (β α ω : Type) where
  outcome : Outcome β
  frame : Frame
  machine : Machine β α ω

namespace Frame

variable {β α ω : Type}

/-
  Run a body inside a frame.  The flag tells whether the body
  runs without giving way.
-/
def within
    (frame : Frame)
    (sync : Bool)
    (m : Machine β α ω)
    (body :
      Bool → Machine β α ω → Outcome β × Machine β α ω) :
    Polled β α ω :=
  match frame with
  | .plain =>
      let (o, m') := body sync m
      ⟨o, .plain, m'⟩
  | .straight =>
      let (o, m') := body true m
      ⟨o, .straight, m'⟩
  | .own keys =>
      let before := m.context.task
      let (o, m') :=
        body sync
          { m with
            context := { m.context with task := some keys } }
      ⟨o, .own (m'.context.task.getD keys),
        { m' with
          context := { m'.context with task := before } }⟩
  | .given keys =>
      let before := m.context.task
      let (o, m') :=
        body sync
          { m with
            context := { m.context with task := some keys } }
      let o :=
        match o with
        | .waiting _ => .finished
        | o => o
      ⟨o, .given keys,
        { m' with
          context := { m'.context with task := before } }⟩
  | .guarded key =>
      let (kind, context) := m.context.enter key
      let (o, m') := body true { m with context }
      ⟨o, .straight,
        { m' with context := m'.context.release kind }⟩
  | .newThread =>
      let before := m.context
      let (o, m') := body true { m with context := .fresh }
      ⟨o, .straight, { m' with context := before }⟩

end Frame

end StorageRouting

------------------------------------------------------------
-- Polling
------------------------------------------------------------

namespace StorageRouting

/- What came of a round over branches. -/
structure Round (β α ω : Type) where
  rest : Branches β
  waits : Bool
  failure : Option String
  panic : Option String
  machine : Machine β α ω

mutual

/-
  Run a program up to where it gives way.  With `sync` it never
  gives way.
-/
def Program.poll
    {β α ω : Type}
    (outside : Outside β α ω)
    (sync : Bool)
    (m : Machine β α ω) :
    Program β → Outcome β × Machine β α ω
| .done => (.finished, m)
| .act a rest => rest.poll outside sync (m.run outside a)
| .yield rest =>
    if sync then rest.poll outside sync m
    else (.waiting rest, m)
| .fail message => (.failed message, m)
| .panic message => (.panicked message, m)
| .block b body rest =>
    let (frame, m) := m.openBlock b
    let p :=
      frame.within sync m (fun s m => body.poll outside s m)
    match p.outcome, b with
    | .waiting body', b =>
        (.waiting (.begun b p.frame body' rest), p.machine)
    | .finished, b =>
        rest.poll outside sync (p.machine.logEnd b none)
    | .failed message, .attempt =>
        rest.poll outside sync
          (p.machine.logEnd .attempt (some message))
    | .failed message, b =>
        (.failed message, p.machine.logEnd b (some message))
    | .panicked _, .recover =>
        rest.poll outside sync (p.machine.logEnd .recover none)
    | .panicked message, _ => (.panicked message, p.machine)
| .begun b frame body rest =>
    let p :=
      frame.within sync m (fun s m => body.poll outside s m)
    match p.outcome, b with
    | .waiting body', b =>
        (.waiting (.begun b p.frame body' rest), p.machine)
    | .finished, b =>
        rest.poll outside sync (p.machine.logEnd b none)
    | .failed message, .attempt =>
        rest.poll outside sync
          (p.machine.logEnd .attempt (some message))
    | .failed message, b =>
        (.failed message, p.machine.logEnd b (some message))
    | .panicked _, .recover =>
        rest.poll outside sync (p.machine.logEnd .recover none)
    | .panicked message, _ => (.panicked message, p.machine)
| .join branches rest =>
    let r := branches.pollAll outside sync m
    match r.panic with
    | some message => (.panicked message, r.machine)
    | none =>
        if r.waits then (.waiting (.join r.rest rest), r.machine)
        else
          let m :=
            r.machine.log
              (.joined r.machine.context.current r.failure)
          match r.failure with
          | some message => (.failed message, m)
          | none => rest.poll outside sync m

/-
  Run every branch up to where it gives way, in order.  A panic
  ends the round; of failures the first in order counts.
-/
def Branches.pollAll
    {β α ω : Type}
    (outside : Outside β α ω)
    (sync : Bool)
    (m : Machine β α ω) :
    Branches β → Round β α ω
| .nil => ⟨.nil, false, none, none, m⟩
| .cons first others =>
    match first.poll outside sync m with
    | (.panicked message, m) =>
        ⟨.nil, false, none, some message, m⟩
    | (.finished, m) =>
        let r := others.pollAll outside sync m
        { r with rest := .cons .done r.rest }
    | (.failed message, m) =>
        let r := others.pollAll outside sync m
        { r with
          rest := .cons (.fail message) r.rest
          failure := some message }
    | (.waiting p, m) =>
        let r := others.pollAll outside sync m
        { r with rest := .cons p r.rest, waits := true }

end

end StorageRouting

------------------------------------------------------------
-- Running
------------------------------------------------------------

namespace StorageRouting

namespace Program

variable {β α ω : Type}

/- Poll a program again and again, at most so many times. -/
def pollTimes
    (outside : Outside β α ω) :
    Nat → Program β → Machine β α ω →
      Outcome β × Machine β α ω
| 0, p, m => (.waiting p, m)
| n + 1, p, m =>
    match p.poll outside false m with
    | (.waiting p', m') => pollTimes outside n p' m'
    | r => r

/-
  Run a program to its end.  Every poll but the last passes a
  place where the program gives way.
-/
def run
    (outside : Outside β α ω)
    (p : Program β)
    (m : Machine β α ω) : Outcome β × Machine β α ω :=
  pollTimes outside (p.yields + 1) p m

end Program

end StorageRouting
