import StorageRouting.Proofs.Routing.CallTree

/-
  Calls with a copy of the stack and calls that lend it.  A body
  pushes and pops keys, reads the stack and makes calls.  What it
  comes to depends on the stack that it begins with, and not on
  whether that is a copy or the caller's own.  Behind a call with
  a copy the caller's stack is as it was; behind one that lends
  it, the stack is what the body left without its top.

  Key definitions include:
    * `Context.withCurrent`
    * `Frame.leaves`
    * `Block.leaves`
    * `CallBody`
    * `Passage`
    * `CallBody.course`

  Main statements:
    * `Frame.outside_withCurrent`
    * `Passage.met_block`
    * `CallBody.poll_met`
    * `CallBody.lent_stack_loses_its_top`
-/

------------------------------------------------------------
-- Stacks Behind Blocks
------------------------------------------------------------

namespace StorageRouting

namespace Context

/- Put another stack in force. -/
def withCurrent
    (c : Context)
    (s : Stack) : Context :=
  c.update (fun _ => s)

/- The stack that is put in force is in force. -/
@[simp] theorem current_withCurrent
    (c : Context)
    (s : Stack) : (c.withCurrent s).current = s := by
  rcases c with ⟨thread, task⟩
  cases task <;> rfl

/- The stack that is put in force last counts. -/
@[simp] theorem withCurrent_withCurrent
    (c : Context)
    (s t : Stack) :
    (c.withCurrent s).withCurrent t = c.withCurrent t := by
  rcases c with ⟨thread, task⟩
  cases task <;> rfl

/- To put the stack in force again changes nothing. -/
@[simp] theorem withCurrent_current (c : Context) :
    c.withCurrent c.current = c := by
  rcases c with ⟨thread, task⟩
  cases task <;> rfl

/- A change puts the changed stack in force. -/
theorem update_eq_withCurrent
    (f : Stack → Stack)
    (c : Context) :
    c.update f = c.withCurrent (f c.current) := by
  rcases c with ⟨thread, task⟩
  cases task <;> rfl

/- A guard that is dropped takes the top of the stack away. -/
theorem release_withCurrent
    (c : Context)
    (s : Stack) :
    (c.withCurrent s).release c.guardKind =
      c.withCurrent s.pop := by
  rcases c with ⟨thread, task⟩
  cases task <;> rfl

/- One stack in force at the end is one end. -/
theorem withCurrent_inj
    {c : Context}
    {s t : Stack} :
    c.withCurrent s = c.withCurrent t ↔ s = t := by
  constructor
  · intro hSame
    have hCurrent := congrArg current hSame
    simpa using hCurrent
  · rintro rfl
    rfl

end Context

namespace Frame

/-
  The stack behind a frame, from the one around it and the one
  that its body leaves.
-/
def leaves
    (frame : Frame)
    (s left : Stack) : Stack :=
  match frame with
  | .plain => left
  | .straight => left
  | .own _ => s
  | .given _ => s
  | .guarded _ => left.pop
  | .newThread => s

/- What a body leaves is left so outside of its frame. -/
theorem outside_withCurrent
    {frame : Frame}
    (h : frame ≠ .newThread)
    (c : Context)
    (left : Stack) :
    frame.outside c ((frame.inside c).withCurrent left) =
      c.withCurrent (frame.leaves c.current left) := by
  cases frame with
  | plain => rfl
  | straight => rfl
  | own keys => exact c.withCurrent_current.symm
  | given keys => exact c.withCurrent_current.symm
  | guarded key =>
      simp only [inside, outside, leaves, Context.enter,
        Context.update_eq_withCurrent,
        Context.withCurrent_withCurrent,
        Context.release_withCurrent]
  | newThread => exact absurd rfl h

end Frame

namespace Block

/- Whether a block lends the stack around it to its body. -/
def lends : Block → Bool
| .syncScope _ => true
| .invokeBlocking _ _ => true
| _ => false

/-
  The stack behind a block, from the one around it and the one
  that its body leaves.  Without a key it is what the body
  leaves.  With one it is as it was, unless it was lent: then it
  is what the body leaves without its top.
-/
def leaves
    (c : Interceptor)
    (b : Block)
    (s left : Stack) : Stack :=
  match b.key? c with
  | none => left
  | some _ => if b.lends then left.pop else s

/- Behind a call with a key the stack is as it was. -/
theorem leaves_invoke
    (c : Interceptor)
    (site : CallSite)
    (i : Invocation)
    (s left : Stack) :
    (invoke site i).leaves c s left =
      if (c.keyFor site i).1.isSome then s else left := by
  simp only [leaves, key?]
  cases (c.keyFor site i).1 <;> rfl

/- Behind a blocking call with a key a top is taken away. -/
theorem leaves_invokeBlocking
    (c : Interceptor)
    (site : CallSite)
    (i : Invocation)
    (s left : Stack) :
    (invokeBlocking site i).leaves c s left =
      if (c.keyFor site i).1.isSome then left.pop else left := by
  simp only [leaves, key?]
  cases (c.keyFor site i).1 <;> rfl

/- Frames of nesting blocks leave what their block leaves. -/
theorem leaves_openBlock
    {β α ω : Type}
    (m : Machine β α ω)
    {b : Block}
    (h : b.Nests)
    (s left : Stack) :
    (m.openBlock b).1 ≠ .newThread ∧
      (m.openBlock b).1.leaves s left =
        b.leaves m.interceptor s left := by
  cases b with
  | invoke site call =>
      simp only [Machine.openBlock, leaves, key?]
      cases (m.interceptor.keyFor site call).1 <;>
        exact ⟨by simp, rfl⟩
  | invokeBlocking site call =>
      simp only [Machine.openBlock, leaves, key?]
      cases (m.interceptor.keyFor site call).1 <;>
        exact ⟨by simp, rfl⟩
  | thread => exact h.elim
  | cancel key => exact h.elim
  | _ => exact ⟨by simp [Machine.openBlock], rfl⟩

end Block

end StorageRouting

------------------------------------------------------------
-- Bodies of Calls
------------------------------------------------------------

namespace StorageRouting

/-
  The body of a call: it pushes and pops keys, reads the stack,
  makes calls, catches failures or panics, and returns, fails
  or panics.
-/
inductive CallBody where
| done : CallBody
| fail (message : String) : CallBody
| panic (message : String) : CallBody
| look (l : Look) (rest : CallBody) : CallBody
| push (key : String) (rest : CallBody) : CallBody
| pop (rest : CallBody) : CallBody
| call (k : Call) (body rest : CallBody) : CallBody
| attempt (body rest : CallBody) : CallBody
| recover (body rest : CallBody) : CallBody

/- The program of a body. -/
def CallBody.program
    {β : Type} :
    CallBody → Program β
| .done => .done
| .fail message => .fail message
| .panic message => .panic message
| .look l rest => .act (.stack l.action) rest.program
| .push key rest => .act (.stack (.push key)) rest.program
| .pop rest => .act (.stack .pop) rest.program
| .call k body rest => .block k.block body.program rest.program
| .attempt body rest => .block .attempt body.program rest.program
| .recover body rest => .block .recover body.program rest.program

/- What is seen of a body, and the stack that it leaves. -/
structure Passage (β α : Type) extends Sight β α where
  stack : Stack

namespace Passage

variable {β α : Type}

/- A passage with lines before it. -/
def behind
    (lines : List (Entry β α))
    (p : Passage β α) : Passage β α :=
  { p with lines := lines ++ p.lines }

/-
  What comes of a block and what follows it, from what is seen
  of its body, the stack behind it, and what comes of the rest.
-/
def settle
    (b : Block)
    (left : Stack)
    (body : Sight β α)
    (rest : Passage β α) : Passage β α :=
  match body.ending, b with
  | .finished, b =>
      rest.behind (body.lines ++ [.ended b left none])
  | .failed message, .attempt =>
      rest.behind
        (body.lines ++ [.ended .attempt left (some message)])
  | .failed message, b =>
      ⟨⟨body.lines ++ [.ended b left (some message)],
        .failed message⟩, left⟩
  | .panicked _, .recover =>
      rest.behind (body.lines ++ [.ended .recover left none])
  | .panicked message, _ =>
      ⟨⟨body.lines, .panicked message⟩, left⟩

end Passage

/-
  What a body comes to from a stack.  A call begins with its key
  on top of that, if it has one, and what follows goes on with
  the stack that the call leaves.
-/
def CallBody.course
    {β α : Type}
    (c : Interceptor)
    (s : Stack) :
    CallBody → Passage β α
| .done => ⟨⟨[], .finished⟩, s⟩
| .fail message => ⟨⟨[], .failed message⟩, s⟩
| .panic message => ⟨⟨[], .panicked message⟩, s⟩
| .look l rest =>
    (rest.course c s).behind [.stack l.action (l.answer s [])]
| .push key rest =>
    (rest.course c (s.push key)).behind
      [.stack (.push key) (.keys (s.push key))]
| .pop rest =>
    (rest.course c s.pop).behind [.stack .pop (.keys s.pop)]
| .call k body rest =>
    let inner := body.course c (s ++ (k.block.key? c).toList)
    let left := k.block.leaves c s inner.stack
    Passage.settle k.block left inner.toSight
      (rest.course c left)
| .attempt body rest =>
    let inner := body.course c s
    Passage.settle .attempt inner.stack inner.toSight
      (rest.course c inner.stack)
| .recover body rest =>
    let inner := body.course c s
    Passage.settle .recover inner.stack inner.toSight
      (rest.course c inner.stack)

end StorageRouting

------------------------------------------------------------
-- Runs of Bodies
------------------------------------------------------------

namespace StorageRouting

variable {β α ω : Type}

/- A machine with another stack in force. -/
def Machine.withStack
    (m : Machine β α ω)
    (s : Stack) : Machine β α ω :=
  { m with context := m.context.withCurrent s }

/-
  A poll from a machine comes to a passage: but for the stack
  in force, which is the one that is left, it comes to what is
  seen.
-/
def Passage.Met
    (p : Passage β α)
    (m : Machine β α ω)
    (r : Outcome β × Machine β α ω) : Prop :=
  p.toSight.Met (m.withStack p.stack) r

namespace Passage.Met

/- A poll that ends at once comes to nothing. -/
theorem ends
    {m : Machine β α ω}
    {s : Stack}
    (hStack : m.context.current = s)
    (ending : Ending) :
    Passage.Met ⟨⟨[], ending⟩, s⟩ m (ending.outcome, m) := by
  subst hStack
  have hSame : m.withStack m.context.current = m := by
    rw [Machine.withStack, Context.withCurrent_current]
  rw [Passage.Met, hSame]
  exact Sight.Met.ends m ending

/- One part of a poll, and the other part. -/
theorem follow
    {s : Sight β α}
    {left : Stack}
    {rest : Passage β α}
    {m m' : Machine β α ω}
    {o : Outcome β}
    {r : Outcome β × Machine β α ω}
    (h : s.Met (m.withStack left) (o, m'))
    (hRest : rest.Met m' r) :
    (rest.behind s.lines).Met m r where
  outcome := hRest.outcome
  record := by
    have hRecord : m'.record = _ := h.record
    have hLater : r.2.record = _ ++ m'.record := hRest.record
    rw [hLater, hRecord]
    simp [behind, Machine.withStack]
  context := by
    have hContext : m'.context = _ := h.context
    refine hRest.context.trans ?_
    simp [Machine.withStack, hContext, behind]
  guards := hRest.guards.trans h.guards
  world := hRest.world.trans h.world
  agrees := hRest.agrees.trans h.agrees

/- An action on the stack, and the rest. -/
theorem act
    {outside : Outside β α ω}
    {m : Machine β α ω}
    {a : StackAction}
    {answer : StackAnswer}
    {s : Stack}
    {rest : Program β}
    {later : Passage β α}
    (hRun : m.runStack a = (answer, m.withStack s))
    (hRest :
      ∀ m' : Machine β α ω,
        m'.context.current = s →
          m'.interceptor = m.interceptor →
            later.Met m' (rest.poll outside true m')) :
    (later.behind [.stack a answer]).Met m
      ((Program.act (.stack a) rest).poll outside true m) := by
  have hLogged :
      m.run outside (.stack a) =
        (m.withStack s).log (.stack a answer) := by
    simp only [Machine.run, hRun]
  rw [Program.poll, hLogged]
  have hNow := Sight.Met.ends (β := β) (m.withStack s) .finished
  have hLine := hNow.log (.stack a answer) .finished
  exact
    follow hLine
      (hRest _ (m.context.current_withCurrent s) rfl)

/- What comes of a block and of the rest comes of both. -/
theorem settle
    {body : Sight β α}
    {left : Stack}
    {rest : Passage β α}
    {m : Machine β α ω}
    {p : Polled β α ω}
    {program : Program β}
    {next : Machine β α ω → Outcome β × Machine β α ω}
    (b : Block)
    (h : body.Met (m.withStack left) (p.outcome, p.machine))
    (hNext :
      ∀ m',
        m'.context.current = left →
          m'.interceptor.Agrees m.interceptor →
            rest.Met m' (next m')) :
    (Passage.settle b left body rest).Met m
      (p.settle b program next) := by
  rcases p with ⟨outcome, frame, m'⟩
  rcases body with ⟨lines, ending⟩
  have hCurrent : m'.context.current = left := by
    have hContext : m'.context = _ := h.context
    rw [hContext]
    exact m.context.current_withCurrent left
  have hLine :
      ∀ b failure ending,
        Sight.Met ⟨lines ++ [.ended b left failure], ending⟩
          (m.withStack left)
          (ending.outcome, m'.logEnd b failure) := by
    intro b failure ending
    rw [Machine.logEnd, hCurrent]
    exact h.log _ ending
  have hFollows :
      ∀ b failure,
        (rest.behind (lines ++ [.ended b left failure])).Met m
          (next (m'.logEnd b failure)) := by
    intro b failure
    have hAgrees : m'.interceptor.Agrees m.interceptor :=
      h.agrees
    exact
      follow (hLine b failure .finished)
        (hNext _ hCurrent hAgrees)
  have hOutcome : outcome = ending.outcome := h.outcome
  subst hOutcome
  cases ending with
  | finished => exact hFollows b none
  | failed message =>
      cases b with
      | attempt => exact hFollows .attempt (some message)
      | _ => exact hLine _ (some message) (.failed message)
  | panicked message =>
      cases b with
      | recover => exact hFollows .recover none
      | _ => exact h

end Passage.Met

/- Interceptors that agree leave the same behind a block. -/
theorem Block.leaves_congr
    {c d : Interceptor}
    (h : c.Agrees d)
    (b : Block)
    (s left : Stack) :
    b.leaves c s left = b.leaves d s left := by
  unfold Block.leaves
  rw [Block.key?_congr h b]

/- A nesting block comes to what its body and its rest do. -/
theorem Passage.met_block
    {outside : Outside β α ω}
    {c : Interceptor}
    {s : Stack}
    {m : Machine β α ω}
    (hStack : m.context.current = s)
    (hAgrees : m.interceptor.Agrees c)
    {b : Block}
    (hNests : b.Nests)
    {body rest : Program β}
    {inner later : Passage β α}
    (hBody :
      ∀ m : Machine β α ω,
        m.context.current = s ++ (b.key? c).toList →
          m.interceptor.Agrees c →
            inner.Met m (body.poll outside true m))
    (hRest :
      ∀ m : Machine β α ω,
        m.context.current = b.leaves c s inner.stack →
          m.interceptor.Agrees c →
            later.Met m (rest.poll outside true m)) :
    (Passage.settle b (b.leaves c s inner.stack) inner.toSight
        later).Met m
      ((Program.block b body rest).poll outside true m) := by
  rcases Program.poll_nested outside m hNests body rest with
    ⟨opened, p, hOpened, hOutcome, hMachine, hPoll⟩
  rcases b.leaves_openBlock m hNests s inner.stack with
    ⟨hNotThread, hLeaves⟩
  rw [Block.leaves_congr hAgrees] at hLeaves
  rw [hPoll]
  generalize (m.openBlock b).1 = frame
    at hOpened hOutcome hMachine hNotThread hLeaves
  have hInner :=
    hBody
      { opened with context := frame.inside m.context }
      (by
        rw [hOpened.current, hStack, Block.key?_congr hAgrees])
      (hOpened.agrees.trans hAgrees)
  -- The frame leaves what it makes of the stack of its body.
  have hMet :
      inner.toSight.Met (m.withStack (b.leaves c s inner.stack))
        (p.outcome, p.machine) := by
    rw [hMachine, hOutcome]
    refine ⟨hInner.outcome, ?_, ?_, ?_, ?_, ?_⟩
    · refine hInner.record.trans ?_
      rw [hOpened.machine]
      rfl
    · have hContext := hInner.context
      simp only [Machine.withStack] at hContext ⊢
      rw [hContext, frame.outside_withCurrent hNotThread,
        hStack, hLeaves]
    · refine hInner.guards.trans ?_
      rw [hOpened.machine]
      rfl
    · refine hInner.world.trans ?_
      rw [hOpened.machine]
      rfl
    · exact hInner.agrees.trans hOpened.agrees
  refine Met.settle b hMet ?_
  intro m' hCurrent hKeys
  exact hRest m' hCurrent (hKeys.trans hAgrees)

namespace CallBody

/- A body that is run straight comes to its course. -/
theorem poll_met
    (outside : Outside β α ω)
    (t : CallBody)
    {c : Interceptor}
    {s : Stack}
    {m : Machine β α ω}
    (hStack : m.context.current = s)
    (hAgrees : m.interceptor.Agrees c) :
    (t.course c s).Met m (t.program.poll outside true m) := by
  induction t generalizing s m with
  | done =>
      rw [program, Program.poll]
      exact Passage.Met.ends hStack .finished
  | fail message =>
      rw [program, Program.poll]
      exact Passage.Met.ends hStack (.failed message)
  | panic message =>
      rw [program, Program.poll]
      exact Passage.Met.ends hStack (.panicked message)
  | look l rest ih =>
      have hSame : m.withStack s = m := by
        rw [← hStack, Machine.withStack,
          Context.withCurrent_current]
      have hRun :
          m.runStack l.action =
            (l.answer s [], m.withStack s) := by
        rw [hSame]
        exact l.runStack_action (by simpa using hStack)
      exact
        Passage.Met.act hRun
          (fun m hStack hKeys => ih hStack (hKeys ▸ hAgrees))
  | push key rest ih =>
      have hRun :
          m.runStack (.push key) =
            (.keys (s.push key), m.withStack (s.push key)) := by
        simp [Machine.runStack, Machine.keysAnswer,
          Machine.onStack, Machine.withStack,
          Context.update_eq_withCurrent, hStack]
      exact
        Passage.Met.act hRun
          (fun m hStack hKeys => ih hStack (hKeys ▸ hAgrees))
  | pop rest ih =>
      have hRun :
          m.runStack .pop =
            (.keys s.pop, m.withStack s.pop) := by
        simp [Machine.runStack, Machine.keysAnswer,
          Machine.onStack, Machine.withStack,
          Context.update_eq_withCurrent, hStack]
      exact
        Passage.Met.act hRun
          (fun m hStack hKeys => ih hStack (hKeys ▸ hAgrees))
  | call k body rest ihBody ihRest =>
      exact
        Passage.met_block hStack hAgrees k.nests
          (fun m => ihBody) (fun m => ihRest)
  | attempt body rest ihBody ihRest =>
      refine
        Passage.met_block (b := .attempt) hStack hAgrees trivial
          ?_ (fun m => ihRest)
      intro m hInner
      exact ihBody (by simpa [Block.key?] using hInner)
  | recover body rest ihBody ihRest =>
      refine
        Passage.met_block (b := .recover) hStack hAgrees trivial
          ?_ (fun m => ihRest)
      intro m hInner
      exact ihBody (by simpa [Block.key?] using hInner)

/- Bodies have no branches and are not given up. -/
theorem program_sequential (t : CallBody) :
    (t.program : Program β).In (Fragment.sequential β) := by
  induction t with
  | call k body rest ihBody ihRest =>
      exact ⟨k.nests.ne_cancel, ihBody, ihRest⟩
  | attempt body rest ihBody ihRest =>
      exact ⟨Block.Nests.ne_cancel trivial, ihBody, ihRest⟩
  | recover body rest ihBody ihRest =>
      exact ⟨Block.Nests.ne_cancel trivial, ihBody, ihRest⟩
  | look l rest ih => exact ⟨trivial, ih⟩
  | push key rest ih => exact ⟨trivial, ih⟩
  | pop rest ih => exact ⟨trivial, ih⟩
  | _ => trivial

end CallBody

end StorageRouting

------------------------------------------------------------
-- Own and Lent Stacks
------------------------------------------------------------

namespace StorageRouting

variable {β α ω : Type}

/-
  A run comes to what is seen of a body: it ends as the body
  does, with the lines of the body and at most one more, and
  changes nothing but the stacks.
-/
structure Sight.EndsRun
    (s : Sight β α)
    (m : Machine β α ω)
    (r : Outcome β × Machine β α ω) : Prop where
  outcome : r.1 = s.ending.outcome
  record :
    ∃ last : Option (Entry β α),
      r.2.record =
        last.toList ++ (s.lines.reverse ++ m.record)
  guards : r.2.guards = m.guards
  world : r.2.world = m.world
  agrees : r.2.interceptor.Agrees m.interceptor

/- A block with nothing behind it comes to what its body does. -/
theorem Passage.settle_done
    (b : Block)
    (hNests : b ≠ .attempt ∧ b ≠ .recover)
    (left : Stack)
    (body : Sight β α) :
    ∃ last : Option (Entry β α),
      Passage.settle b left body ⟨⟨[], .finished⟩, left⟩ =
        ⟨⟨body.lines ++ last.toList, body.ending⟩, left⟩ := by
  rcases body with ⟨lines, ending⟩
  cases ending with
  | finished =>
      exact
        ⟨some (.ended b left none), by
          simp [Passage.settle, Passage.behind]⟩
  | failed message =>
      refine ⟨some (.ended b left (some message)), ?_⟩
      cases b with
      | attempt => exact absurd rfl hNests.1
      | _ => rfl
  | panicked message =>
      refine ⟨none, ?_⟩
      cases b with
      | recover => exact absurd rfl hNests.2
      | _ => simp [Passage.settle]

namespace CallBody

/-
  A call alone ends as its body does, and leaves what its block
  leaves.
-/
theorem run_call
    (outside : Outside β α ω)
    (k : Call)
    (body : CallBody)
    (m : Machine β α ω) :
    let s := m.context.current
    let inner : Passage β α :=
      body.course m.interceptor
        (s ++ (k.block.key? m.interceptor).toList)
    let r := (call k body done).program.run outside m
    inner.toSight.EndsRun m r ∧
      r.2.context =
        m.context.withCurrent
          (k.block.leaves m.interceptor s inner.stack) := by
  intro s inner r
  have hRun :
      r = (call k body done).program.poll outside true m :=
    Program.run_eq_poll_sync outside m
      (call k body done).program_sequential
  have hMet : Passage.Met _ m r :=
    hRun ▸ (call k body done).poll_met outside rfl (.refl _)
  have hNests : k.block ≠ .attempt ∧ k.block ≠ .recover := by
    cases k <;> simp [Call.block]
  rcases Passage.settle_done (α := α) (β := β) k.block hNests
      (k.block.leaves m.interceptor s inner.stack)
      inner.toSight with
    ⟨last, hLast⟩
  have hCourse :
      (call k body done).course m.interceptor s =
        ⟨⟨inner.lines ++ last.toList, inner.ending⟩,
          k.block.leaves m.interceptor s inner.stack⟩ :=
    hLast
  rw [hCourse] at hMet
  have hRecord :
      r.2.record =
        last.toList ++ (inner.lines.reverse ++ m.record) := by
    refine hMet.record.trans ?_
    cases last <;> simp [Machine.withStack]
  exact
    ⟨⟨hMet.outcome, ⟨last, hRecord⟩, hMet.guards, hMet.world,
      hMet.agrees⟩, hMet.context⟩

end CallBody

end StorageRouting

------------------------------------------------------------
-- Blocking Calls
------------------------------------------------------------

namespace StorageRouting

namespace Stack

/-
  A stack without its top is another one when it is that one
  with one more key, or both are empty.
-/
theorem pop_eq_iff
    {s t : Stack} :
    s.pop = t ↔ (∃ key, s = t ++ [key]) ∨ s = [] ∧ t = [] := by
  rcases s.eq_nil_or_concat with rfl | ⟨below, top, rfl⟩
  · simp [pop]
  · simp [pop]

end Stack

variable {β α ω : Type}

namespace CallBody

/-
  Blocking calls beside the others.  From every machine both
  kinds of calls run the body to the same end with the same
  lines, and change nothing but the stack in force.  Without a
  key they leave the stack that the body leaves.  With one, the
  blocking call leaves that stack without its top, the other the
  stack around the call: these are the same exactly when the
  body leaves the stack around with one more key, or both are
  empty.
-/
theorem lent_stack_loses_its_top
    (outside : Outside β α ω)
    (site : CallSite)
    (i : Invocation)
    (body : CallBody)
    (m : Machine β α ω) :
    let key? := (m.interceptor.keyFor site i).1
    let s := m.context.current
    let inner : Passage β α :=
      body.course m.interceptor (s ++ key?.toList)
    let own :=
      (call (.invoke site i) body done).program.run outside m
    let lent :=
      (call (.invokeBlocking site i) body done).program.run
        outside m
    inner.toSight.EndsRun m own ∧
      inner.toSight.EndsRun m lent ∧
      own.2.context =
        m.context.withCurrent
          (if key?.isSome then s else inner.stack) ∧
      lent.2.context =
        m.context.withCurrent
          (if key?.isSome then inner.stack.pop
            else inner.stack) ∧
      (lent.2.context = own.2.context ↔
        key? = none ∨ (∃ key, inner.stack = s ++ [key]) ∨
          inner.stack = [] ∧ s = []) := by
  intro key? s inner own lent
  rcases run_call outside (.invoke site i) body m with
    ⟨hOwnEnds, hOwnLeft⟩
  rcases run_call outside (.invokeBlocking site i) body m with
    ⟨hLentEnds, hLentLeft⟩
  have hOwnStack :
      own.2.context =
        m.context.withCurrent
          (if key?.isSome then s else inner.stack) := by
    rw [← Block.leaves_invoke]
    exact hOwnLeft
  have hLentStack :
      lent.2.context =
        m.context.withCurrent
          (if key?.isSome then inner.stack.pop
            else inner.stack) := by
    rw [← Block.leaves_invokeBlocking]
    exact hLentLeft
  refine ⟨hOwnEnds, hLentEnds, hOwnStack, hLentStack, ?_⟩
  rw [hOwnStack, hLentStack, Context.withCurrent_inj,
    ← Stack.pop_eq_iff]
  clear_value inner own lent key?
  cases key? <;> simp

/- A site with a key, and a thread with another one. -/
def sampleCaller : Machine Empty Empty Unit :=
  { Machine.start
      ⟨RouteTable.empty.annotateMethod ⟨"Alpha", "store"⟩ "k",
        .standard⟩ () with
    context := ⟨["a"], none⟩ }

/-
  It is not so that a blocking call leaves the caller's stack as
  the other kind of call does: a body that pushes a key and
  panics leaves the key of the call there.
-/
theorem not_blocking_leaves_as_invoke :
    ¬ ∀ (body : CallBody)
        (m : Machine Empty Empty Unit)
        (site : CallSite)
        (i : Invocation),
        ((call (.invokeBlocking site i) body done).program.run
            nofun m).2.context =
          ((call (.invoke site i) body done).program.run
            nofun m).2.context := by
  intro hSame
  have hLost :=
    hSame (.push "x" (.panic "lost")) sampleCaller
      ⟨"Alpha", "store"⟩ (.new "store")
  exact absurd hLost (by decide)

end CallBody

end StorageRouting
