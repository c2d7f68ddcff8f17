import StorageRouting.Proofs.Routing.Polling

/-
  Trees of nested calls.  What a tree sees of the routing stack
  is the stack at its root and above it the effective keys of
  the calls around, the outermost first.

  Key definitions include:
    * `RouteTable.Coherent`
    * `Interceptor.Agrees`
    * `Block.key?`
    * `CallTree`
    * `CallTree.program`
    * `CallTree.seen`
    * `Sight.Met`

  Main statements:
    * `Interceptor.agrees_findKey`
    * `Machine.openBlock_nested`
    * `Program.poll_nested`
    * `Sight.met_block`
    * `CallTree.poll_met`
    * `CallTree.run_eq_seen`
-/

------------------------------------------------------------
-- Kept Answers
------------------------------------------------------------

namespace StorageRouting

namespace RouteTable

/- Every kept answer is the key that is attached. -/
def Coherent (t : RouteTable) : Prop :=
  ∀ site answer,
    t.cache.lookup site = some answer →
      answer = t.attached? site

/- A table that has not been asked yet is coherent. -/
theorem coherent_of_unasked
    {t : RouteTable}
    (h : t.cache = []) : t.Coherent := by
  intro site answer hKept
  rw [h] at hKept
  simp at hKept

/- A kept answer is given again. -/
theorem findKey_of_kept
    {t : RouteTable}
    {site : CallSite}
    {answer : Option String}
    (h : t.cache.lookup site = some answer) :
    (t.findKey site).1 = answer := by
  simp only [RouteTable.findKey, h]

/- A coherent table answers with the attached key. -/
theorem Coherent.findKey
    {t : RouteTable}
    (h : t.Coherent)
    (site : CallSite) :
    (t.findKey site).1 = t.attached? site := by
  unfold RouteTable.findKey
  cases hKept : t.cache.lookup site with
  | some answer => exact h site answer hKept
  | none => rfl

/- Lookups do not change the answers to later ones. -/
theorem findKey_findKey
    (t : RouteTable)
    (site other : CallSite) :
    ((t.findKey site).2.findKey other).1 =
      (t.findKey other).1 := by
  conv => lhs; arg 1; arg 1; unfold RouteTable.findKey
  cases hKept : t.cache.lookup site with
  | some answer => rfl
  | none =>
      by_cases hSame : other = site
      · subst hSame
        simp [RouteTable.findKey, hKept]
      · have hOther : (other == site) = false := by
          simpa using hSame
        simp only [RouteTable.findKey, List.lookup_cons, hOther]
        cases t.cache.lookup other <;> rfl

end RouteTable

namespace Interceptor

/-
  Two interceptors give every call the same key: they have one
  chain, and their tables give the same answers.
-/
def Agrees (c d : Interceptor) : Prop :=
  c.chain = d.chain ∧
    ∀ site, (c.findKey site).1 = (d.findKey site).1

/- An interceptor agrees with itself. -/
theorem Agrees.refl (c : Interceptor) : c.Agrees c :=
  ⟨rfl, fun _ => rfl⟩

/- Agreement goes on. -/
theorem Agrees.trans
    {c d e : Interceptor}
    (hLeft : c.Agrees d)
    (hRight : d.Agrees e) : c.Agrees e :=
  ⟨hLeft.1.trans hRight.1,
    fun site => (hLeft.2 site).trans (hRight.2 site)⟩

/- A lookup leaves all answers as they are. -/
theorem agrees_findKey
    (c : Interceptor)
    (site : CallSite) : (c.findKey site).2.Agrees c :=
  ⟨rfl, fun other => c.routes.findKey_findKey site other⟩

/- Interceptors that agree determine the same keys. -/
theorem Agrees.determineKey
    {c d : Interceptor}
    (h : c.Agrees d)
    (literal : String)
    (call : Invocation) :
    c.determineKey literal call = d.determineKey literal call := by
  unfold Interceptor.determineKey
  rw [h.1]

/- The key of a call: the attached one, as it is determined. -/
theorem keyFor_fst
    (c : Interceptor)
    (site : CallSite)
    (call : Invocation) :
    (c.keyFor site call).1 =
      (c.findKey site).1.map
        (fun literal => c.determineKey literal call) :=
  rfl

/- Interceptors that agree give a call the same key. -/
theorem Agrees.keyFor
    {c d : Interceptor}
    (h : c.Agrees d)
    (site : CallSite)
    (call : Invocation) :
    (c.keyFor site call).1 = (d.keyFor site call).1 := by
  rw [keyFor_fst, keyFor_fst, h.2 site]
  simp only [h.determineKey]

/- With a coherent table the key of a call is the attached one. -/
theorem keyFor_of_coherent
    {c : Interceptor}
    (h : c.routes.Coherent)
    (site : CallSite)
    (call : Invocation) :
    (c.keyFor site call).1 =
      (c.routes.attached? site).map
        (fun literal => c.determineKey literal call) := by
  rw [keyFor_fst, ← h.findKey site]
  rfl

end Interceptor

end StorageRouting

------------------------------------------------------------
-- Keys of Blocks
------------------------------------------------------------

namespace StorageRouting

namespace Block

/-
  The key that a block puts on the stack for its body: the one
  given, or the effective one of the call.
-/
def key?
    (c : Interceptor) :
    Block → Option String
| .scope key => some key
| .syncScope key => some key
| .invoke site call => (c.keyFor site call).1
| .invokeBlocking site call => (c.keyFor site call).1
| .invokeKey literal call => some (c.determineKey literal call)
| _ => none

/- Interceptors that agree give a block the same key. -/
theorem key?_congr
    {c d : Interceptor}
    (h : c.Agrees d)
    (b : Block) : b.key? c = b.key? d := by
  cases b with
  | invoke site call => exact h.keyFor site call
  | invokeBlocking site call => exact h.keyFor site call
  | invokeKey literal call =>
      exact congrArg some (h.determineKey literal call)
  | _ => rfl

/-
  Blocks that run their body on the stack around them or on one
  more key, to the end.
-/
def Nests : Block → Prop
| .thread => False
| .cancel _ => False
| _ => True

/- What nests is not given up. -/
theorem Nests.ne_cancel
    {b : Block}
    (h : b.Nests)
    (key : String) : b ≠ .cancel key := by
  rintro rfl
  exact h

end Block

namespace Machine

variable {β α ω : Type}

/- A push through an entered guard. -/
theorem current_enter
    (c : Context)
    (key : String) :
    (c.enter key).2.current = c.current ++ [key] :=
  c.current_update_push key

/-
  How a nesting block begins: it runs its body to the end, with
  its key on the stack, and only its call site may have been
  looked up.
-/
structure Nested
    (m : Machine β α ω)
    (key? : Option String)
    (frame : Frame)
    (opened : Machine β α ω) : Prop where
  notGiven : ∀ keys, frame ≠ .given keys
  current :
    (frame.inside m.context).current =
      m.context.current ++ key?.toList
  machine : opened = { m with interceptor := opened.interceptor }
  agrees : opened.interceptor.Agrees m.interceptor

/- A block without a key of its own begins so. -/
theorem nested_of_plain (m : Machine β α ω) :
    m.Nested none .plain m where
  notGiven keys := by simp
  current := by simp [Frame.inside]
  machine := rfl
  agrees := .refl _

/- A call with its own stack begins so. -/
theorem nested_of_own
    (m : Machine β α ω)
    (key : String) :
    m.Nested (some key) (.own (m.above key)) m where
  notGiven keys := by simp
  current := rfl
  machine := rfl
  agrees := .refl _

/- Every nesting block begins so. -/
theorem openBlock_nested
    (m : Machine β α ω)
    {b : Block}
    (h : b.Nests) :
    m.Nested (b.key? m.interceptor) (m.openBlock b).1
      (m.openBlock b).2 := by
  cases b with
  | attempt => exact m.nested_of_plain
  | recover => exact m.nested_of_plain
  | scope key => exact m.nested_of_own key
  | invokeKey literal call => exact m.nested_of_own _
  | syncScope key =>
      refine ⟨?_, current_enter _ key, rfl, .refl _⟩
      simp [openBlock]
  | invoke site call =>
      refine ⟨?_, ?_, rfl, m.interceptor.agrees_findKey site⟩
      · simp only [openBlock]
        cases (m.interceptor.keyFor site call).1 <;> simp
      · simp only [openBlock, Block.key?]
        cases (m.interceptor.keyFor site call).1 with
        | none => simp [Frame.inside]
        | some key => rfl
  | invokeBlocking site call =>
      refine ⟨?_, ?_, rfl, m.interceptor.agrees_findKey site⟩
      · simp only [openBlock]
        cases (m.interceptor.keyFor site call).1 <;> simp
      · simp only [openBlock, Block.key?]
        cases (m.interceptor.keyFor site call).1 with
        | none => simp [Frame.inside]
        | some key => exact current_enter _ key
  | thread => exact h.elim
  | cancel key => exact h.elim

end Machine

/-
  A nesting block polls its body from the context inside its
  frame, and goes on from the one outside.
-/
theorem Program.poll_nested
    {β α ω : Type}
    (outside : Outside β α ω)
    (m : Machine β α ω)
    {b : Block}
    (h : b.Nests)
    (body rest : Program β) :
    ∃ (opened : Machine β α ω) (p : Polled β α ω),
      let frame := (m.openBlock b).1
      let r :=
        body.poll outside true
          { opened with context := frame.inside m.context }
      m.Nested (b.key? m.interceptor) frame opened ∧
        p.outcome = r.1 ∧
        p.machine =
          { r.2 with
            context := frame.outside m.context r.2.context } ∧
        (block b body rest).poll outside true m =
          p.settle b rest (rest.poll outside true) := by
  have hOpened := m.openBlock_nested h
  have hContext := m.context_openBlock b
  rw [poll_block, poll_begun]
  generalize
    (m.openBlock b).1 = frame, (m.openBlock b).2 = opened
    at hOpened hContext ⊢
  have hMachine :=
    frame.machine_within true opened
      (fun s m => body.poll outside s m)
  have hOutcome :=
    Frame.outcome_within hOpened.notGiven true opened
      (fun s m => body.poll outside s m)
  rw [frame.runsStraight_true, hContext] at hMachine hOutcome
  exact ⟨opened, _, hOpened, hOutcome, hMachine, rfl⟩

end StorageRouting

------------------------------------------------------------
-- Trees of Calls
------------------------------------------------------------

namespace StorageRouting

/- What a tree can read of the stack. -/
inductive Look where
| peek : Look
| depth : Look
| snapshot : Look
deriving DecidableEq, Repr

namespace Look

/- The action that reads the stack. -/
def action : Look → StackAction
| .peek => .peek
| .depth => .depth
| .snapshot => .snapshot

/-
  The answer under a root stack and the keys of the calls
  around: the latest of the keys is seen on top, or the top of
  the root.
-/
def answer
    (root : Stack)
    (keys : List String) :
    Look → StackAnswer
| .peek => .top (keys.getLast?.getD root.peek)
| .depth => .depth (root.length + keys.length)
| .snapshot => .keys (root ++ keys)

/- So is the stack read when it is the root with the keys. -/
theorem runStack_action
    {β α ω : Type}
    (look : Look)
    {m : Machine β α ω}
    {root : Stack}
    {keys : List String}
    (h : m.context.current = root ++ keys) :
    m.runStack look.action = (look.answer root keys, m) := by
  cases look with
  | peek =>
      simp only [action, answer, Machine.runStack, h, Stack.peek]
      cases keys.eq_nil_or_concat with
      | inl hNil => simp [hNil]
      | inr hConcat =>
          rcases hConcat with ⟨before, key, rfl⟩
          simp [← List.append_assoc]
  | depth => simp [action, answer, Machine.runStack, h]
  | snapshot =>
      simp [action, answer, Machine.runStack, Machine.keysAnswer,
        h]

end Look

/- A call that puts its key on the stack for its body. -/
inductive Call where
| scope (key : String) : Call
| syncScope (key : String) : Call
| invoke (site : CallSite) (call : Invocation) : Call
| invokeBlocking (site : CallSite) (call : Invocation) : Call
| invokeKey (literal : String) (call : Invocation) : Call

/- The block of a call. -/
def Call.block : Call → Block
| .scope key => .scope key
| .syncScope key => .syncScope key
| .invoke site call => .invoke site call
| .invokeBlocking site call => .invokeBlocking site call
| .invokeKey literal call => .invokeKey literal call

/- All calls nest. -/
theorem Call.nests (k : Call) : k.block.Nests := by
  cases k <;> trivial

/-
  A tree of nested calls: a body reads the stack, gives way,
  makes calls, catches failures or panics, and returns, fails
  or panics.
-/
inductive CallTree where
| done : CallTree
| fail (message : String) : CallTree
| panic (message : String) : CallTree
| look (l : Look) (rest : CallTree) : CallTree
| yield (rest : CallTree) : CallTree
| call (k : Call) (body rest : CallTree) : CallTree
| attempt (body rest : CallTree) : CallTree
| recover (body rest : CallTree) : CallTree

/- The program of a tree. -/
def CallTree.program
    {β : Type} :
    CallTree → Program β
| .done => .done
| .fail message => .fail message
| .panic message => .panic message
| .look l rest => .act (.stack l.action) rest.program
| .yield rest => .yield rest.program
| .call k body rest => .block k.block body.program rest.program
| .attempt body rest => .block .attempt body.program rest.program
| .recover body rest => .block .recover body.program rest.program

end StorageRouting

------------------------------------------------------------
-- What Trees See
------------------------------------------------------------

namespace StorageRouting

/- How a tree ends. -/
inductive Ending where
| finished : Ending
| failed (message : String) : Ending
| panicked (message : String) : Ending
deriving DecidableEq, Repr

/- The outcome of a program that ends so. -/
def Ending.outcome
    {β : Type} :
    Ending → Outcome β
| .finished => .finished
| .failed message => .failed message
| .panicked message => .panicked message

/- What a line tells of the stack when it was read. -/
def Entry.stackAnswer?
    {β α : Type} :
    Entry β α → Option StackAnswer
| .stack _ answer => some answer
| _ => none

/- The lines that a tree records, in order, and its end. -/
structure Sight (β α : Type) where
  lines : List (Entry β α)
  ending : Ending

namespace Sight

variable {β α : Type}

/-
  What is seen of a block and what follows it, from what is
  seen of its body and of the rest: the end of the block is
  recorded with the stack around it, except for a panic that
  passes through.
-/
def settle
    (b : Block)
    (stack : Stack)
    (body rest : Sight β α) : Sight β α :=
  match body.ending, b with
  | .finished, b =>
      ⟨body.lines ++ .ended b stack none :: rest.lines,
        rest.ending⟩
  | .failed message, .attempt =>
      ⟨body.lines ++
          .ended .attempt stack (some message) :: rest.lines,
        rest.ending⟩
  | .failed message, b =>
      ⟨body.lines ++ [.ended b stack (some message)],
        .failed message⟩
  | .panicked _, .recover =>
      ⟨body.lines ++ .ended .recover stack none :: rest.lines,
        rest.ending⟩
  | .panicked message, _ => ⟨body.lines, .panicked message⟩

end Sight

/-
  What a tree sees under a root stack, inside calls that put
  their keys on it.  A call whose body it enters adds its key,
  if it has one.
-/
def CallTree.seen
    {β α : Type}
    (c : Interceptor)
    (root : Stack)
    (keys : List String) :
    CallTree → Sight β α
| .done => ⟨[], .finished⟩
| .fail message => ⟨[], .failed message⟩
| .panic message => ⟨[], .panicked message⟩
| .look l rest =>
    let r := rest.seen c root keys
    ⟨.stack l.action (l.answer root keys) :: r.lines, r.ending⟩
| .yield rest => rest.seen c root keys
| .call k body rest =>
    Sight.settle k.block (root ++ keys)
      (body.seen c root (keys ++ (k.block.key? c).toList))
      (rest.seen c root keys)
| .attempt body rest =>
    Sight.settle .attempt (root ++ keys)
      (body.seen c root keys) (rest.seen c root keys)
| .recover body rest =>
    Sight.settle .recover (root ++ keys)
      (body.seen c root keys) (rest.seen c root keys)

end StorageRouting

------------------------------------------------------------
-- The Law of Call Trees
------------------------------------------------------------

namespace StorageRouting

variable {β α ω : Type}

/-
  A poll from a machine comes to what was to be seen: it ends
  so, adds the lines to the record, leaves both stacks as they
  were, and gives no call another key.
-/
structure Sight.Met
    (s : Sight β α)
    (m : Machine β α ω)
    (r : Outcome β × Machine β α ω) : Prop where
  outcome : r.1 = s.ending.outcome
  record : r.2.record = s.lines.reverse ++ m.record
  context : r.2.context = m.context
  guards : r.2.guards = m.guards
  world : r.2.world = m.world
  agrees : r.2.interceptor.Agrees m.interceptor

namespace Sight.Met

/- A poll that ends at once sees nothing. -/
theorem ends
    (m : Machine β α ω)
    (ending : Ending) :
    Sight.Met ⟨[], ending⟩ m (ending.outcome, m) :=
  ⟨rfl, rfl, rfl, rfl, rfl, .refl _⟩

/- A line more, and an end. -/
theorem log
    {s : Sight β α}
    {m m' : Machine β α ω}
    {o : Outcome β}
    (h : s.Met m (o, m'))
    (e : Entry β α)
    (ending : Ending) :
    Sight.Met ⟨s.lines ++ [e], ending⟩ m
      (ending.outcome, m'.log e) where
  outcome := rfl
  record := by
    have hRecord : m'.record = _ := h.record
    simp [Machine.log, hRecord]
  context := h.context
  guards := h.guards
  world := h.world
  agrees := h.agrees

/- One part of a poll, a line, and the other part. -/
theorem follow
    {s rest : Sight β α}
    {m m' : Machine β α ω}
    {o : Outcome β}
    {e : Entry β α}
    {r : Outcome β × Machine β α ω}
    (h : s.Met m (o, m'))
    (hRest : rest.Met (m'.log e) r) :
    Sight.Met ⟨s.lines ++ e :: rest.lines, rest.ending⟩ m r where
  outcome := hRest.outcome
  record := by
    have hRecord : m'.record = _ := h.record
    rw [hRest.record]
    simp [Machine.log, hRecord]
  context := hRest.context.trans h.context
  guards := hRest.guards.trans h.guards
  world := hRest.world.trans h.world
  agrees := hRest.agrees.trans h.agrees

/-
  What is seen of the body of a block and of the rest is what
  is seen of both.
-/
theorem settle
    {s rest : Sight β α}
    {m : Machine β α ω}
    {p : Polled β α ω}
    {left : Program β}
    {next : Machine β α ω → Outcome β × Machine β α ω}
    (b : Block)
    (h : s.Met m (p.outcome, p.machine))
    (hNext :
      ∀ m',
        m'.context = m.context →
          m'.interceptor.Agrees m.interceptor →
            rest.Met m' (next m')) :
    (Sight.settle b m.context.current s rest).Met m
      (p.settle b left next) := by
  rcases p with ⟨outcome, frame, m'⟩
  rcases s with ⟨lines, ending⟩
  have hContext : m'.context = m.context := h.context
  have hFollows :
      ∀ b failure,
        Sight.Met
          ⟨lines ++ .ended b m.context.current failure ::
              rest.lines, rest.ending⟩
          m (next (m'.logEnd b failure)) := by
    intro b failure
    rw [← hContext]
    exact h.follow (hNext _ hContext h.agrees)
  have hLast :
      ∀ b failure ending,
        Sight.Met
          ⟨lines ++ [.ended b m.context.current failure], ending⟩
          m (ending.outcome, m'.logEnd b failure) := by
    intro b failure ending
    rw [← hContext]
    exact h.log _ ending
  have hOutcome : outcome = ending.outcome := h.outcome
  subst hOutcome
  cases ending with
  | finished => exact hFollows b none
  | failed message =>
      cases b with
      | attempt => exact hFollows .attempt (some message)
      | _ => exact hLast _ (some message) (.failed message)
  | panicked message =>
      cases b with
      | recover => exact hFollows .recover none
      | _ => exact h

end Sight.Met

/- A nesting block is seen as its body and the rest are. -/
theorem Sight.met_block
    {outside : Outside β α ω}
    {c : Interceptor}
    {root : Stack}
    {keys : List String}
    {m : Machine β α ω}
    (hStack : m.context.current = root ++ keys)
    (hAgrees : m.interceptor.Agrees c)
    {b : Block}
    (hNests : b.Nests)
    {body rest : Program β}
    {inner later : Sight β α}
    (hBody :
      ∀ m : Machine β α ω,
        m.context.current =
            root ++ (keys ++ (b.key? c).toList) →
          m.interceptor.Agrees c →
            inner.Met m (body.poll outside true m))
    (hRest :
      ∀ m : Machine β α ω,
        m.context.current = root ++ keys →
          m.interceptor.Agrees c →
            later.Met m (rest.poll outside true m)) :
    (Sight.settle b (root ++ keys) inner later).Met m
      ((Program.block b body rest).poll outside true m) := by
  rcases Program.poll_nested outside m hNests body rest with
    ⟨opened, p, hOpened, hOutcome, hMachine, hPoll⟩
  rw [hPoll]
  generalize (m.openBlock b).1 = frame
    at hOpened hOutcome hMachine
  have hInner :=
    hBody
      { opened with context := frame.inside m.context }
      (by
        rw [hOpened.current, hStack, Block.key?_congr hAgrees,
          List.append_assoc])
      (hOpened.agrees.trans hAgrees)
  -- The body leaves its stack as it was, and so does the frame.
  have hMet : inner.Met m (p.outcome, p.machine) := by
    rw [hMachine, hOutcome]
    refine ⟨hInner.outcome, ?_, ?_, ?_, ?_, ?_⟩
    · refine hInner.record.trans ?_
      rw [hOpened.machine]
    · dsimp only
      rw [hInner.context, Frame.outside_inside]
    · refine hInner.guards.trans ?_
      rw [hOpened.machine]
    · refine hInner.world.trans ?_
      rw [hOpened.machine]
    · exact hInner.agrees.trans hOpened.agrees
  rw [← hStack]
  refine hMet.settle b ?_
  intro m' hContext hKeys
  exact
    hRest m' (by rw [hContext, hStack]) (hKeys.trans hAgrees)

namespace CallTree

/- A tree that is run straight comes to what it sees. -/
theorem poll_met
    (outside : Outside β α ω)
    (t : CallTree)
    {c : Interceptor}
    {root : Stack}
    {keys : List String}
    {m : Machine β α ω}
    (hStack : m.context.current = root ++ keys)
    (hAgrees : m.interceptor.Agrees c) :
    (t.seen c root keys).Met m
      (t.program.poll outside true m) := by
  induction t generalizing keys m with
  | done =>
      rw [program, Program.poll]
      exact Sight.Met.ends m .finished
  | fail message =>
      rw [program, Program.poll]
      exact Sight.Met.ends m (.failed message)
  | panic message =>
      rw [program, Program.poll]
      exact Sight.Met.ends m (.panicked message)
  | look l rest ih =>
      rw [program, Program.poll]
      have hRun :
          m.run outside (.stack l.action) =
            m.log (.stack l.action (l.answer root keys)) := by
        simp only [Machine.run, l.runStack_action hStack]
      rw [hRun]
      have hNow := Sight.Met.ends m .finished
      exact hNow.follow (ih hStack hAgrees)
  | yield rest ih =>
      rw [program, Program.poll, if_pos rfl]
      exact ih hStack hAgrees
  | call k body rest ihBody ihRest =>
      exact
        Sight.met_block hStack hAgrees k.nests
          (fun m => ihBody) (fun m => ihRest)
  | attempt body rest ihBody ihRest =>
      refine
        Sight.met_block hStack hAgrees (b := .attempt) trivial
          ?_ (fun m => ihRest)
      intro m hInner
      exact ihBody (by simpa [Block.key?] using hInner)
  | recover body rest ihBody ihRest =>
      refine
        Sight.met_block hStack hAgrees (b := .recover) trivial
          ?_ (fun m => ihRest)
      intro m hInner
      exact ihBody (by simpa [Block.key?] using hInner)

/- Trees have no branches and are not given up. -/
theorem program_sequential (t : CallTree) :
    (t.program : Program β).In (Fragment.sequential β) := by
  induction t with
  | call k body rest ihBody ihRest =>
      exact ⟨k.nests.ne_cancel, ihBody, ihRest⟩
  | attempt body rest ihBody ihRest =>
      exact ⟨Block.Nests.ne_cancel trivial, ihBody, ihRest⟩
  | recover body rest ihBody ihRest =>
      exact ⟨Block.Nests.ne_cancel trivial, ihBody, ihRest⟩
  | look l rest ih => exact ⟨trivial, ih⟩
  | yield rest ih => exact ih
  | _ => trivial

/-
  The law of call trees.  A tree that runs from any machine,
  with whatever stack and attached keys, sees the stack at its
  root with the effective keys of the calls around it, and
  leaves both stacks as they were however it ends; and if the
  table of attached keys is coherent, the effective key of a
  call site is determined from the key attached to it.
-/
theorem run_eq_seen
    (outside : Outside β α ω)
    (t : CallTree)
    (m : Machine β α ω) :
    (t.seen m.interceptor m.context.current []).Met m
        (t.program.run outside m) ∧
      (m.interceptor.routes.Coherent →
        ∀ site call,
          (m.interceptor.keyFor site call).1 =
            (m.interceptor.routes.attached? site).map
              (fun literal =>
                m.interceptor.determineKey literal call)) := by
  rw [Program.run_eq_poll_sync outside m t.program_sequential]
  constructor
  · exact t.poll_met outside (by simp) (.refl _)
  · intro hCoherent site call
    exact Interceptor.keyFor_of_coherent hCoherent site call

/- Keys attached to a type, and to a method in other ways. -/
def sampleRoutes : RouteTable :=
  ((RouteTable.empty.annotateType "Media" "media").annotateMethod
    ⟨"Media", "store"⟩ "#role").annotateMethod
      ⟨"Audit", "record"⟩ ""

/- Calls in calls, one of them without a key and one panicking. -/
def sampleTree : CallTree :=
  .call (.invoke ⟨"Media", "fetch"⟩ (.new "fetch"))
    (.call (.invokeBlocking ⟨"Other", "touch"⟩ (.new "touch"))
      (.call (.invoke ⟨"Audit", "record"⟩ (.new "record"))
        (.look .snapshot .done)
        (.recover
          (.call (.syncScope "inner")
            (.look .peek (.panic "lost")) .done)
          (.look .peek .done)))
      .done)
    (.look .depth .done)

/- A thread with one key and the attached keys. -/
def sampleStart : Machine Empty Empty Unit :=
  { context := ⟨["root"], none⟩, guards := []
    interceptor := ⟨sampleRoutes, .standard⟩
    record := [], world := () }

/- What the sample sees when it starts there. -/
theorem sampleTree_seen :
    sampleStart.interceptor.routes.Coherent ∧
      (sampleTree.program.run nofun sampleStart).1 =
        .finished ∧
      (sampleTree.program.run nofun
          sampleStart).2.record.reverse.filterMap
            Entry.stackAnswer? =
        [.keys ["root", "media", ""], .top "inner",
          .top "media", .depth 1] ∧
      (sampleTree.program.run nofun sampleStart).2.context =
        ⟨["root"], none⟩ ∧
      (sampleStart.interceptor.keyFor
          ⟨"Audit", "record"⟩ (.new "record")).1 = some "" := by
  have hCoherent : sampleStart.interceptor.routes.Coherent :=
    RouteTable.coherent_of_unasked rfl
  have hLaw := run_eq_seen nofun sampleTree sampleStart
  refine
    ⟨hCoherent, hLaw.1.outcome, ?_, hLaw.1.context, ?_⟩
  · rw [hLaw.1.record]
    simp only [sampleStart, List.append_nil, List.reverse_reverse]
    rfl
  · exact hLaw.2 hCoherent ⟨"Audit", "record"⟩ (.new "record")

end CallTree

end StorageRouting
