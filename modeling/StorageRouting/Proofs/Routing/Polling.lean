import StorageRouting.Routing.Machine

/-
  Laws of polling: what a frame does to the context around its
  body, and that giving way changes nothing in a program that
  is not run beside others.

  Key definitions include:
    * `Frame.inside`
    * `Frame.outside`
    * `Polled.settle`
    * `Fragment`
    * `Fragment.Respects`
    * `Program.LeadsTo`

  Main statements:
    * `Frame.outside_inside`
    * `Program.poll_begun_cases`
    * `Program.poll_keeps`
    * `Program.poll_sync_ne_waiting`
    * `Program.poll_yields_lt`
    * `Program.run_eq_poll_sync`
-/

------------------------------------------------------------
-- Contexts
------------------------------------------------------------

namespace StorageRouting

namespace Context

/- A push on the stack in force. -/
theorem current_update_push
    (c : Context)
    (key : String) :
    (c.update (·.push key)).current = c.current ++ [key] := by
  rcases c with ⟨thread, task⟩
  cases task <;> rfl

/- Changes of the stack in force do not make or end a task. -/
theorem task_isSome_update
    (f : Stack → Stack)
    (c : Context) :
    (c.update f).task.isSome = c.task.isSome := by
  rcases c with ⟨thread, task⟩
  cases task <;> rfl

/- Dropping a guard does not make or end a task. -/
theorem task_isSome_release
    (kind : GuardKind)
    (c : Context) :
    (c.release kind).task.isSome = c.task.isSome := by
  cases kind <;> simp [release]

/- Dropping the latest guard undoes its making. -/
theorem release_enter
    (c : Context)
    (key : String) :
    (c.enter key).2.release (c.enter key).1 = c := by
  rcases c with ⟨thread, task⟩
  cases task <;>
    simp [enter, guardKind, update, release, Stack.push,
      Stack.pop]

end Context

end StorageRouting

------------------------------------------------------------
-- Frames
------------------------------------------------------------

namespace StorageRouting

namespace Frame

variable {β α ω : Type}

/- The context in which the body of a frame begins. -/
def inside
    (frame : Frame)
    (c : Context) : Context :=
  match frame with
  | .plain => c
  | .straight => c
  | .own keys => { c with task := some keys }
  | .given keys => { c with task := some keys }
  | .guarded key => (c.enter key).2
  | .newThread => .fresh

/-
  The context around a frame after its body, from the context
  before the frame and the one that the body leaves.
-/
def outside
    (frame : Frame)
    (before after : Context) : Context :=
  match frame with
  | .plain => after
  | .straight => after
  | .own _ => { after with task := before.task }
  | .given _ => { after with task := before.task }
  | .guarded _ => after.release before.guardKind
  | .newThread => before

/- Whether the body of a frame runs without giving way. -/
def runsStraight
    (frame : Frame)
    (sync : Bool) : Bool :=
  match frame with
  | .plain => sync
  | .own _ => sync
  | .given _ => sync
  | .straight => true
  | .guarded _ => true
  | .newThread => true

/-
  A body that leaves its context as it found it leaves the one
  around the frame as it was.
-/
theorem outside_inside
    (frame : Frame)
    (c : Context) :
    frame.outside c (frame.inside c) = c := by
  cases frame with
  | guarded key => exact c.release_enter key
  | _ => rfl

/- The machine after a frame: the body's, in the outer context. -/
theorem machine_within
    (frame : Frame)
    (sync : Bool)
    (m : Machine β α ω)
    (body : Bool → Machine β α ω → Outcome β × Machine β α ω) :
    (frame.within sync m body).machine =
      let m' :=
        (body (frame.runsStraight sync)
          { m with context := frame.inside m.context }).2
      { m' with
        context := frame.outside m.context m'.context } := by
  cases frame <;> rfl

/-
  The outcome of a body is that of its frame, unless it may be
  given up.
-/
theorem outcome_within
    {frame : Frame}
    (h : ∀ keys, frame ≠ .given keys)
    (sync : Bool)
    (m : Machine β α ω)
    (body : Bool → Machine β α ω → Outcome β × Machine β α ω) :
    (frame.within sync m body).outcome =
      (body (frame.runsStraight sync)
        { m with context := frame.inside m.context }).1 := by
  cases frame with
  | given keys => exact absurd rfl (h keys)
  | _ => rfl

/- A frame waits only with its body. -/
theorem waits_within
    (frame : Frame)
    (sync : Bool)
    (m : Machine β α ω)
    (body : Bool → Machine β α ω → Outcome β × Machine β α ω)
    (rest : Program β)
    (h : (frame.within sync m body).outcome = .waiting rest) :
    (body (frame.runsStraight sync)
      { m with context := frame.inside m.context }).1 =
        .waiting rest := by
  cases frame with
  | given keys =>
      simp only [within] at h
      split at h
      · simp at h
      · rename_i hNot
        exact absurd h (hNot rest)
  | _ => exact h

/- Frames do not make or end the task around them. -/
theorem task_isSome_outside
    (frame : Frame)
    {before after : Context}
    (h :
      after.task.isSome = (frame.inside before).task.isSome) :
    (frame.outside before after).task.isSome =
      before.task.isSome := by
  cases frame with
  | guarded key =>
      rw [outside, Context.task_isSome_release, h]
      exact Context.task_isSome_update _ _
  | plain => exact h
  | straight => exact h
  | _ => rfl

end Frame

end StorageRouting

------------------------------------------------------------
-- Blocks
------------------------------------------------------------

namespace StorageRouting

namespace Polled

variable {β α ω : Type}

/-
  Go on behind the body of a block: wait with it, record its
  end and go on with the rest, or end as it did.
-/
def settle
    (b : Block)
    (rest : Program β)
    (next : Machine β α ω → Outcome β × Machine β α ω)
    (p : Polled β α ω) : Outcome β × Machine β α ω :=
  match p.outcome, b with
  | .waiting body, b =>
      (.waiting (.begun b p.frame body rest), p.machine)
  | .finished, b => next (p.machine.logEnd b none)
  | .failed message, .attempt =>
      next (p.machine.logEnd .attempt (some message))
  | .failed message, b =>
      (.failed message, p.machine.logEnd b (some message))
  | .panicked _, .recover =>
      next (p.machine.logEnd .recover none)
  | .panicked message, _ => (.panicked message, p.machine)

end Polled

namespace Program

variable {β α ω : Type}

/- A block that has begun runs its body inside its frame. -/
theorem poll_begun
    (outside : Outside β α ω)
    (sync : Bool)
    (m : Machine β α ω)
    (b : Block)
    (frame : Frame)
    (body rest : Program β) :
    (begun b frame body rest).poll outside sync m =
      (frame.within sync m
        (fun s m => body.poll outside s m)).settle b rest
          (rest.poll outside sync) := by
  conv => lhs; unfold Program.poll
  rfl

/- A block begins when it is polled first. -/
theorem poll_block
    (outside : Outside β α ω)
    (sync : Bool)
    (m : Machine β α ω)
    (b : Block)
    (body rest : Program β) :
    (block b body rest).poll outside sync m =
      (begun b (m.openBlock b).1 body rest).poll outside sync
        (m.openBlock b).2 := by
  conv => lhs; unfold Program.poll
  conv => rhs; unfold Program.poll

end Program

end StorageRouting

------------------------------------------------------------
-- Where Blocks Lead
------------------------------------------------------------

namespace StorageRouting

namespace Polled

variable {β α ω : Type}

/-
  A block whose body has run waits with it, goes on with the
  rest, or ends; its own end may be recorded before.
-/
theorem settle_cases
    (b : Block)
    (rest : Program β)
    (next : Machine β α ω → Outcome β × Machine β α ω)
    (p : Polled β α ω) :
    (∃ body, p.outcome = .waiting body ∧
        p.settle b rest next =
          (.waiting (.begun b p.frame body rest), p.machine)) ∨
      (∃ failure,
        p.settle b rest next =
          next (p.machine.logEnd b failure)) ∨
      (∃ message failure,
        p.settle b rest next =
          (.failed message, p.machine.logEnd b failure)) ∨
      (∃ message,
        p.settle b rest next =
          (.panicked message, p.machine)) := by
  rcases p with ⟨outcome, frame, m⟩
  cases outcome with
  | waiting body => exact Or.inl ⟨body, rfl, rfl⟩
  | finished => exact Or.inr (Or.inl ⟨none, rfl⟩)
  | failed message =>
      cases b with
      | attempt => exact Or.inr (Or.inl ⟨some message, rfl⟩)
      | _ =>
          exact
            Or.inr (Or.inr (Or.inl ⟨message, some message, rfl⟩))
  | panicked message =>
      cases b with
      | recover => exact Or.inr (Or.inl ⟨none, rfl⟩)
      | _ => exact Or.inr (Or.inr (Or.inr ⟨message, rfl⟩))

end Polled

namespace Machine

variable {β α ω : Type}

/- To begin a block leaves the context alone. -/
theorem context_openBlock
    (m : Machine β α ω)
    (b : Block) : (m.openBlock b).2.context = m.context := by
  cases b <;> rfl

/- An action does not make or end a task. -/
theorem task_isSome_run
    (outside : Outside β α ω)
    (m : Machine β α ω)
    (a : Act β) :
    (m.run outside a).context.task.isSome =
      m.context.task.isSome := by
  have hDrop :
      ∀ (m : Machine β α ω) id,
        (m.dropGuard id).context.task.isSome =
          m.context.task.isSome := by
    intro m id
    unfold dropGuard
    split
    · rfl
    · exact Context.task_isSome_release _ _
  cases a with
  | stack a =>
      cases a with
      | push key => exact Context.task_isSome_update _ _
      | pop => exact Context.task_isSome_update _ _
      | guard id key =>
          exact
            (hDrop _ id).trans (Context.task_isSome_update _ _)
      | drop id => exact hDrop m id
      | _ => rfl
  | route a => cases a <;> rfl
  | outside b => rfl

end Machine

end StorageRouting

------------------------------------------------------------
-- Fragments of Programs
------------------------------------------------------------

namespace StorageRouting

/- The frames that a block can have. -/
def Block.Opens (b : Block) (frame : Frame) : Prop :=
  match b, frame with
  | .attempt, .plain => True
  | .recover, .plain => True
  | .scope _, .own _ => True
  | .invokeKey _ _, .own _ => True
  | .invoke _ _, .own _ => True
  | .invoke _ _, .plain => True
  | .syncScope _, .guarded _ => True
  | .syncScope _, .straight => True
  | .invokeBlocking _ _, .guarded _ => True
  | .invokeBlocking _ _, .straight => True
  | .thread, .newThread => True
  | .thread, .straight => True
  | .cancel _, .given _ => True
  | _, _ => False

/- A block that begins has a frame of its own. -/
theorem Machine.opens_openBlock
    {β α ω : Type}
    (m : Machine β α ω)
    (b : Block) : b.Opens (m.openBlock b).1 := by
  cases b with
  | invoke site call =>
      simp only [openBlock]
      cases (m.interceptor.keyFor site call).1 <;> trivial
  | invokeBlocking site call =>
      simp only [openBlock]
      cases (m.interceptor.keyFor site call).1 <;> trivial
  | _ => trivial

/- A frame that ran its body is still one of its block. -/
theorem Frame.opens_within
    {β α ω : Type}
    {b : Block}
    {frame : Frame}
    (h : b.Opens frame)
    (sync : Bool)
    (m : Machine β α ω)
    (body : Bool → Machine β α ω → Outcome β × Machine β α ω) :
    b.Opens (frame.within sync m body).frame := by
  cases frame <;> cases b <;>
    first
      | exact h.elim
      | trivial

/-
  A poll of a block that has begun: it waits with what is left
  of the body in a frame of the block, or it goes on with the
  rest, fails or panics, back in the context around the frame.
-/
theorem Program.poll_begun_cases
    {β α ω : Type}
    (outside : Outside β α ω)
    (sync : Bool)
    (m : Machine β α ω)
    (b : Block)
    (frame : Frame)
    (body rest : Program β) :
    let r :=
      body.poll outside (frame.runsStraight sync)
        { m with context := frame.inside m.context }
    let m' :=
      { r.2 with context := frame.outside m.context r.2.context }
    let result := (begun b frame body rest).poll outside sync m
    (∃ left frame', r.1 = .waiting left ∧
        (b.Opens frame → b.Opens frame') ∧
          result = (.waiting (.begun b frame' left rest), m')) ∨
      (∃ failure,
        result = rest.poll outside sync (m'.logEnd b failure)) ∨
      (∃ message failure,
        result = (.failed message, m'.logEnd b failure)) ∨
      (∃ message, result = (.panicked message, m')) := by
  dsimp only
  rw [Program.poll_begun]
  have hMachine :=
    frame.machine_within sync m (fun s m => body.poll outside s m)
  have hWaiting :=
    frame.waits_within sync m (fun s m => body.poll outside s m)
  have hFrame :=
    fun hOpens : b.Opens frame =>
      frame.opens_within hOpens sync m
        (fun s m => body.poll outside s m)
  generalize
    frame.within sync m (fun s m => body.poll outside s m) = p
    at hMachine hWaiting hFrame ⊢
  dsimp only at hMachine hWaiting
  rw [← hMachine]
  rcases p.settle_cases b rest (rest.poll outside sync) with
    ⟨left, hWaits, hEq⟩ | hEnds
  · exact
      Or.inl ⟨left, p.frame, hWaiting left hWaits, hFrame, hEq⟩
  · exact Or.inr hEnds

/-
  A fragment of programs: the actions and blocks that may
  occur, and whether branches may.
-/
structure Fragment (β : Type) where
  act : Act β → Prop
  block : Block → Prop
  joins : Prop

mutual

/- A program belongs to a fragment. -/
def Program.In
    {β : Type}
    (f : Fragment β) :
    Program β → Prop
| .done => True
| .act a rest => f.act a ∧ rest.In f
| .yield rest => rest.In f
| .fail _ => True
| .panic _ => True
| .block b body rest => f.block b ∧ body.In f ∧ rest.In f
| .begun b frame body rest =>
    f.block b ∧ b.Opens frame ∧ body.In f ∧ rest.In f
| .join branches rest => f.joins ∧ branches.In f ∧ rest.In f

/- All branches belong to a fragment. -/
def Branches.In
    {β : Type}
    (f : Fragment β) :
    Branches β → Prop
| .nil => True
| .cons first others => first.In f ∧ others.In f

end

/-
  A relation between the machines before and after, which all
  that a fragment can do respects.
-/
structure Fragment.Respects
    {β α ω : Type}
    (f : Fragment β)
    (outside : Outside β α ω)
    (R : Machine β α ω → Machine β α ω → Prop) : Prop where
  refl : ∀ m, R m m
  trans : ∀ m₁ m₂ m₃, R m₁ m₂ → R m₂ m₃ → R m₁ m₃
  act : ∀ m a, f.act a → R m (m.run outside a)
  log : ∀ m e, R m (m.log e)
  openBlock : ∀ m b, f.block b → R m (m.openBlock b).2
  frame :
    ∀ m m' b frame, f.block b → b.Opens frame →
      R { m with context := frame.inside m.context } m' →
        R m
          { m' with
            context := frame.outside m.context m'.context }

end StorageRouting

------------------------------------------------------------
-- Polls Stay in a Fragment
------------------------------------------------------------

namespace StorageRouting

section

variable {β α ω : Type}
variable {f : Fragment β} {outside : Outside β α ω}
variable {R : Machine β α ω → Machine β α ω → Prop}

/-
  A poll from a machine respects a relation, and what is left
  of the program stays in the fragment.
-/
def Fragment.Keeps
    (f : Fragment β)
    (R : Machine β α ω → Machine β α ω → Prop)
    (m : Machine β α ω)
    (r : Outcome β × Machine β α ω) : Prop :=
  R m r.2 ∧ ∀ rest, r.1 = .waiting rest → rest.In f

/- A poll that goes on from a kept machine keeps as much. -/
theorem Fragment.Respects.keeps_of
    (h : f.Respects outside R)
    {m m' : Machine β α ω}
    {r : Outcome β × Machine β α ω}
    (hFirst : R m m')
    (hThen : f.Keeps R m' r) : f.Keeps R m r :=
  ⟨h.trans _ _ _ hFirst hThen.1, hThen.2⟩

/- A block keeps what its body and the rest keep. -/
theorem Fragment.Respects.poll_begun
    (h : f.Respects outside R)
    (sync : Bool)
    (m : Machine β α ω)
    {b : Block}
    {frame : Frame}
    {body rest : Program β}
    (hIn : (Program.begun b frame body rest).In f)
    (hBody : ∀ s m, f.Keeps R m (body.poll outside s m))
    (hRest : ∀ m, f.Keeps R m (rest.poll outside sync m)) :
    f.Keeps R m
      ((Program.begun b frame body rest).poll outside sync m) := by
  rcases hIn with ⟨hBlock, hOpens, _, hRestIn⟩
  have hInner :=
    hBody (frame.runsStraight sync)
      { m with context := frame.inside m.context }
  have hMachine := h.frame m _ b frame hBlock hOpens hInner.1
  have hLogged :
      ∀ m' failure, R m m' → R m (m'.logEnd b failure) :=
    fun m' _ hKept => h.trans _ _ _ hKept (h.log m' _)
  rcases Program.poll_begun_cases outside sync m b frame body
      rest with
    ⟨left, frame', hWaits, hStill, hEq⟩ | ⟨failure, hEq⟩ |
      ⟨message, failure, hEq⟩ | ⟨message, hEq⟩
  · rw [hEq]
    refine ⟨hMachine, ?_⟩
    rintro _ ⟨⟩
    exact
      ⟨hBlock, hStill hOpens, hInner.2 left hWaits, hRestIn⟩
  · rw [hEq]
    exact h.keeps_of (hLogged _ failure hMachine) (hRest _)
  · rw [hEq]
    exact ⟨hLogged _ failure hMachine, by simp⟩
  · rw [hEq]
    exact ⟨hMachine, by simp⟩

mutual

/- A poll keeps what all that its fragment can do keeps. -/
theorem Program.poll_keeps
    {β α ω : Type}
    {f : Fragment β}
    {outside : Outside β α ω}
    {R : Machine β α ω → Machine β α ω → Prop}
    (h : f.Respects outside R)
    (sync : Bool)
    (m : Machine β α ω) :
    ∀ p : Program β,
      p.In f → f.Keeps R m (p.poll outside sync m)
| .done, _ => by
    rw [Program.poll]
    exact ⟨h.refl m, by simp⟩
| .act a rest, hIn => by
    rw [Program.poll]
    exact
      h.keeps_of (h.act m a hIn.1)
        (Program.poll_keeps h sync (m.run outside a) rest hIn.2)
| .yield rest, hIn => by
    rw [Program.poll]
    split
    · exact Program.poll_keeps h sync m rest hIn
    · refine ⟨h.refl m, ?_⟩
      rintro _ ⟨⟩
      exact hIn
| .fail message, _ => by
    rw [Program.poll]
    exact ⟨h.refl m, by simp⟩
| .panic message, _ => by
    rw [Program.poll]
    exact ⟨h.refl m, by simp⟩
| .block b body rest, hIn => by
    rw [Program.poll_block]
    have hBegunIn :
        (Program.begun b (m.openBlock b).1 body rest).In f :=
      ⟨hIn.1, m.opens_openBlock b, hIn.2.1, hIn.2.2⟩
    have hBegun :=
      h.poll_begun sync (m.openBlock b).2 hBegunIn
        (fun s m => Program.poll_keeps h s m body hIn.2.1)
        (fun m => Program.poll_keeps h sync m rest hIn.2.2)
    exact h.keeps_of (h.openBlock m b hIn.1) hBegun
| .begun b frame body rest, hIn =>
    h.poll_begun sync m hIn
      (fun s m => Program.poll_keeps h s m body hIn.2.2.1)
      (fun m => Program.poll_keeps h sync m rest hIn.2.2.2)
| .join branches rest, hIn => by
    rw [Program.poll]
    have hAll :=
      Branches.pollAll_keeps h sync m branches hIn.2.1
    dsimp only
    split
    · exact ⟨hAll.1, by simp⟩
    · split
      · refine ⟨hAll.1, ?_⟩
        rintro _ ⟨⟩
        exact ⟨hIn.1, hAll.2, hIn.2.2⟩
      · have hLogged :=
          fun e => h.trans _ _ _ hAll.1 (h.log _ e)
        split
        · exact ⟨hLogged _, by simp⟩
        · exact
            h.keeps_of (hLogged _)
              (Program.poll_keeps h sync _ rest hIn.2.2)

/- A round over branches keeps what each of its polls keeps. -/
theorem Branches.pollAll_keeps
    {β α ω : Type}
    {f : Fragment β}
    {outside : Outside β α ω}
    {R : Machine β α ω → Machine β α ω → Prop}
    (h : f.Respects outside R)
    (sync : Bool)
    (m : Machine β α ω) :
    ∀ branches : Branches β,
      branches.In f →
        R m (branches.pollAll outside sync m).machine ∧
          (branches.pollAll outside sync m).rest.In f
| .nil, _ => by
    rw [Branches.pollAll]
    exact ⟨h.refl m, trivial⟩
| .cons first others, hIn => by
    rw [Branches.pollAll]
    have hFirst := Program.poll_keeps h sync m first hIn.1
    have hOthers :=
      Branches.pollAll_keeps h sync
        (first.poll outside sync m).2 others hIn.2
    have hBoth := h.trans _ _ _ hFirst.1 hOthers.1
    rcases hPoll : first.poll outside sync m with ⟨outcome, m'⟩
    rw [hPoll] at hFirst hOthers hBoth
    cases outcome with
    | finished => exact ⟨hBoth, trivial, hOthers.2⟩
    | failed message => exact ⟨hBoth, trivial, hOthers.2⟩
    | panicked message => exact ⟨hFirst.1, trivial⟩
    | waiting p => exact ⟨hBoth, hFirst.2 p rfl, hOthers.2⟩

end

end

end StorageRouting

------------------------------------------------------------
-- Programs That Do Not Give Way
------------------------------------------------------------

namespace StorageRouting

/- Every frame of a straight body is straight itself. -/
theorem Frame.runsStraight_true (frame : Frame) :
    frame.runsStraight true = true := by
  cases frame <;> rfl

/- A block whose body does not wait waits only with the rest. -/
theorem Program.begun_ne_waiting
    {β α ω : Type}
    (outside : Outside β α ω)
    (m : Machine β α ω)
    (b : Block)
    (frame : Frame)
    {body rest : Program β}
    (hBody :
      ∀ m p, (body.poll outside true m).1 ≠ .waiting p)
    (hRest :
      ∀ m p, (rest.poll outside true m).1 ≠ .waiting p)
    (p : Program β) :
    ((Program.begun b frame body rest).poll outside true m).1 ≠
      .waiting p := by
  rcases Program.poll_begun_cases outside true m b frame body
      rest with
    ⟨left, frame', hWaits, _, hEq⟩ | ⟨failure, hEq⟩ |
      ⟨message, failure, hEq⟩ | ⟨message, hEq⟩
  · rw [frame.runsStraight_true] at hWaits
    exact absurd hWaits (hBody _ left)
  · rw [hEq]
    exact hRest _ p
  · rw [hEq]
    simp
  · rw [hEq]
    simp

mutual

/- A program that is run straight does not wait. -/
theorem Program.poll_sync_ne_waiting
    {β α ω : Type}
    (outside : Outside β α ω)
    (m : Machine β α ω) :
    ∀ p rest : Program β,
      (p.poll outside true m).1 ≠ .waiting rest
| .done, _ => by
    rw [Program.poll]
    simp
| .act a rest, p => by
    rw [Program.poll]
    exact
      Program.poll_sync_ne_waiting outside (m.run outside a) rest p
| .yield rest, p => by
    rw [Program.poll, if_pos rfl]
    exact Program.poll_sync_ne_waiting outside m rest p
| .fail message, _ => by
    rw [Program.poll]
    simp
| .panic message, _ => by
    rw [Program.poll]
    simp
| .block b body rest, p => by
    rw [Program.poll_block]
    exact
      Program.begun_ne_waiting outside (m.openBlock b).2 b
        (m.openBlock b).1
        (fun m => Program.poll_sync_ne_waiting outside m body)
        (fun m => Program.poll_sync_ne_waiting outside m rest) p
| .begun b frame body rest, p =>
    Program.begun_ne_waiting outside m b frame
      (fun m => Program.poll_sync_ne_waiting outside m body)
      (fun m => Program.poll_sync_ne_waiting outside m rest) p
| .join branches rest, p => by
    rw [Program.poll]
    have hAll := Branches.pollAll_sync_waits outside m branches
    dsimp only
    split
    · simp
    · rw [hAll, if_neg Bool.false_ne_true]
      split
      · simp
      · exact Program.poll_sync_ne_waiting outside _ rest p

/- Branches that are run straight do not wait. -/
theorem Branches.pollAll_sync_waits
    {β α ω : Type}
    (outside : Outside β α ω)
    (m : Machine β α ω) :
    ∀ branches : Branches β,
      (branches.pollAll outside true m).waits = false
| .nil => by rw [Branches.pollAll]
| .cons first others => by
    rw [Branches.pollAll]
    have hFirst := Program.poll_sync_ne_waiting outside m first
    have hOthers :=
      Branches.pollAll_sync_waits outside
        (first.poll outside true m).2 others
    rcases hPoll : first.poll outside true m with ⟨outcome, m'⟩
    rw [hPoll] at hFirst hOthers
    cases outcome with
    | finished => exact hOthers
    | failed message => exact hOthers
    | panicked message => rfl
    | waiting p => exact absurd rfl (hFirst p)

end

end StorageRouting

------------------------------------------------------------
-- Giving Way Comes to an End
------------------------------------------------------------

namespace StorageRouting

/-
  What is left of a block gives way less often than the block,
  if what is left of its body and of the rest does.
-/
theorem Program.begun_yields_lt
    {β α ω : Type}
    (outside : Outside β α ω)
    (sync : Bool)
    (m : Machine β α ω)
    (b : Block)
    (frame : Frame)
    {body rest p : Program β}
    (hBody :
      ∀ sync m p,
        (body.poll outside sync m).1 = .waiting p →
          p.yields < body.yields)
    (hRest :
      ∀ m p,
        (rest.poll outside sync m).1 = .waiting p →
          p.yields < rest.yields)
    (h :
      ((begun b frame body rest).poll outside sync m).1 =
        .waiting p) :
    p.yields < body.yields + rest.yields := by
  rcases Program.poll_begun_cases outside sync m b frame body
      rest with
    ⟨left, frame', hWaits, _, hEq⟩ | ⟨failure, hEq⟩ |
      ⟨message, failure, hEq⟩ | ⟨message, hEq⟩
  · rw [hEq] at h
    cases h
    have hLess := hBody _ _ left hWaits
    simp only [Program.yields]
    omega
  · rw [hEq] at h
    have hLess := hRest _ p h
    omega
  · rw [hEq] at h
    simp at h
  · rw [hEq] at h
    simp at h

mutual

/- What is left of a program that gave way does so less often. -/
theorem Program.poll_yields_lt
    {β α ω : Type}
    (outside : Outside β α ω)
    (sync : Bool)
    (m : Machine β α ω) :
    ∀ p left : Program β,
      (p.poll outside sync m).1 = .waiting left →
        left.yields < p.yields
| .done, _, h => by
    rw [Program.poll] at h
    simp at h
| .act a rest, left, h => by
    rw [Program.poll] at h
    exact
      Program.poll_yields_lt outside sync (m.run outside a)
        rest left h
| .yield rest, left, h => by
    rw [Program.poll] at h
    rw [Program.yields]
    split at h
    · have hLess :=
        Program.poll_yields_lt outside sync m rest left h
      omega
    · cases h
      omega
| .fail message, _, h => by
    rw [Program.poll] at h
    simp at h
| .panic message, _, h => by
    rw [Program.poll] at h
    simp at h
| .block b body rest, left, h => by
    rw [Program.poll_block] at h
    exact
      Program.begun_yields_lt outside sync (m.openBlock b).2 b
        (m.openBlock b).1
        (fun s m => Program.poll_yields_lt outside s m body)
        (fun m => Program.poll_yields_lt outside sync m rest) h
| .begun b frame body rest, left, h =>
    Program.begun_yields_lt outside sync m b frame
      (fun s m => Program.poll_yields_lt outside s m body)
      (fun m => Program.poll_yields_lt outside sync m rest) h
| .join branches rest, left, h => by
    rw [Program.poll] at h
    have hAll :=
      Branches.pollAll_yields_le outside sync m branches
    rw [Program.yields]
    dsimp only at h
    split at h
    · simp at h
    · split at h
      · rename_i hWaits
        cases h
        have hLess := hAll.2 hWaits
        rw [Program.yields]
        omega
      · split at h
        · simp at h
        · have hLess :=
            Program.poll_yields_lt outside sync _ rest left h
          omega

/-
  What is left of branches gives way no more often than they
  do, and less often when one of them gave way.
-/
theorem Branches.pollAll_yields_le
    {β α ω : Type}
    (outside : Outside β α ω)
    (sync : Bool)
    (m : Machine β α ω) :
    ∀ branches : Branches β,
      (branches.pollAll outside sync m).rest.yields ≤
          branches.yields ∧
        ((branches.pollAll outside sync m).waits = true →
          (branches.pollAll outside sync m).rest.yields <
            branches.yields)
| .nil => by
    rw [Branches.pollAll]
    simp
| .cons first others => by
    rw [Branches.pollAll, Branches.yields]
    have hFirst :=
      Program.poll_yields_lt outside sync m first
    have hOthers :=
      Branches.pollAll_yields_le outside sync
        (first.poll outside sync m).2 others
    rcases hPoll : first.poll outside sync m with ⟨outcome, m'⟩
    rw [hPoll] at hFirst hOthers
    cases outcome with
    | finished =>
        simp only [Branches.yields, Program.yields] at hOthers ⊢
        refine ⟨by omega, fun hWaits => ?_⟩
        have hLess := hOthers.2 hWaits
        omega
    | failed message =>
        simp only [Branches.yields, Program.yields] at hOthers ⊢
        refine ⟨by omega, fun hWaits => ?_⟩
        have hLess := hOthers.2 hWaits
        omega
    | panicked message => simp [Branches.yields]
    | waiting left =>
        have hLess := hFirst left rfl
        simp only [Branches.yields] at hOthers ⊢
        exact ⟨by omega, fun _ => by omega⟩

end

namespace Program

variable {β α ω : Type}

/- More polls than a program can give way change nothing. -/
theorem pollTimes_eq_of_yields_lt
    (outside : Outside β α ω)
    (n k : Nat)
    (p : Program β)
    (m : Machine β α ω)
    (hLeft : p.yields < n)
    (hRight : p.yields < k) :
    pollTimes outside n p m = pollTimes outside k p m := by
  induction n generalizing k p m with
  | zero => omega
  | succ n ih =>
      cases k with
      | zero => omega
      | succ k =>
          have hLess := p.poll_yields_lt outside false m
          unfold pollTimes
          rcases hPoll : p.poll outside false m with ⟨o, m'⟩
          rw [hPoll] at hLess
          cases o with
          | waiting left =>
              have hFewer := hLess left rfl
              exact ih k left m' (by omega) (by omega)
          | _ => rfl

/- A program that gave way goes on to where it runs. -/
theorem run_of_waiting
    {outside : Outside β α ω}
    {p left : Program β}
    {m m' : Machine β α ω}
    (h : p.poll outside false m = (.waiting left, m')) :
    p.run outside m = left.run outside m' := by
  have hLess :=
    p.poll_yields_lt outside false m left (by rw [h])
  unfold run
  rw [pollTimes, h]
  exact
    pollTimes_eq_of_yields_lt outside _ _ left m' hLess
      (Nat.lt_succ_self _)

/- A program that does not give way runs by one poll. -/
theorem run_of_ends
    {outside : Outside β α ω}
    {p : Program β}
    {m : Machine β α ω}
    (h : ∀ left, (p.poll outside false m).1 ≠ .waiting left) :
    p.run outside m = p.poll outside false m := by
  unfold run
  rw [pollTimes]
  rcases hPoll : p.poll outside false m with ⟨o, m'⟩
  rw [hPoll] at h
  cases o with
  | waiting left => exact absurd rfl (h left)
  | _ => rfl

end Program

end StorageRouting

------------------------------------------------------------
-- Giving Way Changes Nothing
------------------------------------------------------------

namespace StorageRouting

namespace Fragment

variable {β α ω : Type}

/- Programs without branches that are not given up. -/
def sequential (β : Type) : Fragment β :=
  ⟨fun _ => True, fun b => ∀ key, b ≠ .cancel key, False⟩

/- No sequential program makes or ends the task it runs in. -/
theorem sequential_respects_task
    (outside : Outside β α ω) :
    (sequential β).Respects outside
      (fun m m' =>
        m'.context.task.isSome = m.context.task.isSome) where
  refl _ := rfl
  trans _ _ _ h₁ h₂ := h₂.trans h₁
  act m a _ := m.task_isSome_run outside a
  log _ _ := rfl
  openBlock m b _ := by rw [m.context_openBlock b]
  frame _ _ _ frame _ _ h := frame.task_isSome_outside h

end Fragment

namespace Program

variable {β α ω : Type}

/-
  A poll leads to a result: it has it, or it waits with a
  program that comes to the result when it is run straight.
-/
def LeadsTo
    (outside : Outside β α ω)
    (result r : Outcome β × Machine β α ω) : Prop :=
  match r with
  | (.waiting p, m) => p.poll outside true m = result
  | r => result = r

/- The result of a body that ended leads on through the rest. -/
theorem settle_leadsTo
    {outside : Outside β α ω}
    (b : Block)
    {rest : Program β}
    (hRest :
      ∀ m,
        LeadsTo outside (rest.poll outside true m)
          (rest.poll outside false m))
    (p : Polled β α ω)
    (hEnds : ∀ body, p.outcome ≠ .waiting body) :
    LeadsTo outside (p.settle b rest (rest.poll outside true))
      (p.settle b rest (rest.poll outside false)) := by
  rcases p with ⟨outcome, frame, m⟩
  cases outcome with
  | waiting body => exact absurd rfl (hEnds body)
  | finished => exact hRest _
  | failed message =>
      cases b with
      | attempt => exact hRest _
      | _ => rfl
  | panicked message =>
      cases b with
      | recover => exact hRest _
      | _ => rfl

end Program

end StorageRouting

namespace StorageRouting

namespace Frame

variable {β α ω : Type}

/-
  A frame that waited and goes on with what is left of its body
  comes to what it comes to with the whole body, run straight.
-/
theorem within_resumes
    {frame : Frame}
    (hFrame : frame = .plain ∨ ∃ keys, frame = .own keys)
    (m : Machine β α ω)
    (body left : Bool → Machine β α ω → Outcome β × Machine β α ω)
    (hTask :
      ∀ sync,
        (body sync
            { m with
              context :=
                frame.inside m.context }).2.context.task.isSome =
          (frame.inside m.context).task.isSome)
    (hLeft :
      left true
          (body false
            { m with context := frame.inside m.context }).2 =
        body true { m with context := frame.inside m.context }) :
    (frame.within false m body).frame.within true
        (frame.within false m body).machine left =
      frame.within true m body := by
  rcases hFrame with rfl | ⟨keys, rfl⟩
  · simp only [inside] at hLeft
    simp only [within, hLeft]
  · have hWaited := hTask false
    have hEnded := hTask true
    simp only [inside] at hWaited hEnded hLeft
    simp only [within]
    generalize
      body false
        { m with
          context := { m.context with task := some keys } } = r
      at hWaited hLeft ⊢
    rcases r with ⟨outcome, ⟨⟨thread, task⟩, guards, i, l, w⟩⟩
    cases task with
    | none => simp at hWaited
    | some stack =>
        simp only [Option.getD_some] at hLeft ⊢
        rw [hLeft]
        generalize
          body true
            { m with
              context := { m.context with task := some keys } } = q
          at hEnded ⊢
        rcases q with ⟨ending, ⟨⟨thread', task'⟩, g, i', l', w'⟩⟩
        cases task' with
        | none => simp at hEnded
        | some stack' => rfl

/-
  A body that comes to the same when it runs straight does so
  inside its frame.
-/
theorem within_congr
    {frame : Frame}
    (hFrame : frame = .plain ∨ ∃ keys, frame = .own keys)
    (m : Machine β α ω)
    (body : Bool → Machine β α ω → Outcome β × Machine β α ω)
    (h :
      body true { m with context := frame.inside m.context } =
        body false { m with context := frame.inside m.context }) :
    frame.within false m body = frame.within true m body := by
  rcases hFrame with rfl | ⟨keys, rfl⟩ <;>
    simp only [inside] at h <;>
    simp only [within, h]

end Frame

namespace Program

variable {β α ω : Type}

/- A block leads where it comes to when it is run straight. -/
theorem begun_leadsTo
    {outside : Outside β α ω}
    (m : Machine β α ω)
    {b : Block}
    {frame : Frame}
    {body rest : Program β}
    (hIn :
      (begun b frame body rest).In (Fragment.sequential β))
    (hBody :
      ∀ m,
        LeadsTo outside (body.poll outside true m)
          (body.poll outside false m))
    (hRest :
      ∀ m,
        LeadsTo outside (rest.poll outside true m)
          (rest.poll outside false m)) :
    LeadsTo outside
      ((begun b frame body rest).poll outside true m)
      ((begun b frame body rest).poll outside false m) := by
  rcases hIn with ⟨hBlock, hOpens, hBodyIn, hRestIn⟩
  rw [poll_begun, poll_begun]
  -- A body that has ended came to the same when it ran straight.
  have hEnded :
      frame.within false m (fun s m => body.poll outside s m) =
          frame.within true m
            (fun s m => body.poll outside s m) →
        (∀ left,
          (frame.within false m
            (fun s m => body.poll outside s m)).outcome ≠
              .waiting left) →
        LeadsTo outside
          ((frame.within true m
            (fun s m => body.poll outside s m)).settle b rest
              (rest.poll outside true))
          ((frame.within false m
            (fun s m => body.poll outside s m)).settle b rest
              (rest.poll outside false)) := by
    intro hSame hEnds
    rw [← hSame]
    exact settle_leadsTo b hRest _ hEnds
  have hStraight :
      frame.runsStraight false = true →
        ∀ left,
          (frame.within false m
            (fun s m => body.poll outside s m)).outcome ≠
              .waiting left := by
    intro hRuns left hWaits
    have hInner := frame.waits_within false m _ left hWaits
    rw [hRuns] at hInner
    exact poll_sync_ne_waiting outside _ body left hInner
  -- A body that gives way goes on in the same frame.
  have hGivesWay :
      frame = .plain ∨ (∃ keys, frame = .own keys) →
        LeadsTo outside
          ((frame.within true m
            (fun s m => body.poll outside s m)).settle b rest
              (rest.poll outside true))
          ((frame.within false m
            (fun s m => body.poll outside s m)).settle b rest
              (rest.poll outside false)) := by
    intro hFrame
    have hRuns :
        frame.runsStraight false = false ∧
          frame.runsStraight true = true := by
      rcases hFrame with rfl | ⟨keys, rfl⟩ <;> exact ⟨rfl, rfl⟩
    have hHere :=
      hBody { m with context := frame.inside m.context }
    have hTask :=
      fun sync =>
        (poll_keeps
          (Fragment.sequential_respects_task outside) sync
          { m with context := frame.inside m.context }
          body hBodyIn).1
    have hNotGiven : ∀ keys, frame ≠ .given keys := by
      rcases hFrame with rfl | ⟨keys, rfl⟩ <;> simp
    have hOutcome :=
      Frame.outcome_within hNotGiven false m
        (fun s m => body.poll outside s m)
    rw [hRuns.1] at hOutcome
    rcases hPoll :
        body.poll outside false
          { m with context := frame.inside m.context } with
      ⟨outcome, m'⟩
    rw [hPoll] at hHere hOutcome
    cases outcome with
    | waiting left =>
        have hResumes :=
          Frame.within_resumes hFrame m
            (fun s m => body.poll outside s m)
            (fun s m => left.poll outside s m) hTask
            (by rw [hPoll]; exact hHere)
        generalize
          frame.within false m
            (fun s m => body.poll outside s m) = p
          at hOutcome hResumes ⊢
        have hWaits :
            p.settle b rest (rest.poll outside false) =
              (.waiting (.begun b p.frame left rest),
                p.machine) := by
          simp only [Polled.settle, hOutcome]
        rw [hWaits]
        simp only [LeadsTo]
        rw [poll_begun, hResumes]
    | _ =>
        have hSame :=
          Frame.within_congr hFrame m
            (fun s m => body.poll outside s m)
            (by rw [hPoll]; exact hHere)
        refine hEnded hSame ?_
        rw [hOutcome]
        simp
  cases frame with
  | plain => exact hGivesWay (Or.inl rfl)
  | own keys => exact hGivesWay (Or.inr ⟨keys, rfl⟩)
  | given keys =>
      cases b <;>
        first
          | exact hOpens.elim
          | exact absurd rfl (hBlock _)
  | guarded key => exact hEnded rfl (hStraight rfl)
  | straight => exact hEnded rfl (hStraight rfl)
  | newThread => exact hEnded rfl (hStraight rfl)

/- What a sequential program comes to when it runs straight. -/
theorem poll_leadsTo
    (outside : Outside β α ω)
    (m : Machine β α ω) :
    ∀ p : Program β,
      p.In (Fragment.sequential β) →
        LeadsTo outside (p.poll outside true m)
          (p.poll outside false m)
| .done, _ => by
    rw [Program.poll, Program.poll]
    exact rfl
| .act a rest, hIn => by
    rw [Program.poll, Program.poll]
    exact poll_leadsTo outside (m.run outside a) rest hIn.2
| .yield rest, hIn => by
    rw [Program.poll, Program.poll, if_pos rfl,
      if_neg Bool.false_ne_true]
    exact rfl
| .fail message, _ => by
    rw [Program.poll, Program.poll]
    exact rfl
| .panic message, _ => by
    rw [Program.poll, Program.poll]
    exact rfl
| .block b body rest, hIn => by
    rw [poll_block, poll_block]
    exact
      begun_leadsTo (m.openBlock b).2
        ⟨hIn.1, m.opens_openBlock b, hIn.2.1, hIn.2.2⟩
        (fun m => poll_leadsTo outside m body hIn.2.1)
        (fun m => poll_leadsTo outside m rest hIn.2.2)
| .begun b frame body rest, hIn =>
    begun_leadsTo m hIn
      (fun m => poll_leadsTo outside m body hIn.2.2.1)
      (fun m => poll_leadsTo outside m rest hIn.2.2.2)
| .join branches rest, hIn => absurd hIn.1 id

/-
  A sequential program that gives way comes to what it comes to
  when it runs straight.
-/
theorem run_eq_poll_sync
    (outside : Outside β α ω)
    {p : Program β}
    (m : Machine β α ω)
    (hIn : p.In (Fragment.sequential β)) :
    p.run outside m = p.poll outside true m := by
  rcases hPoll : p.poll outside false m with ⟨outcome, m'⟩
  have hLeads := poll_leadsTo outside m p hIn
  rw [hPoll] at hLeads
  cases outcome with
  | waiting left =>
      have hKeeps :=
        poll_keeps (Fragment.sequential_respects_task outside)
          false m p hIn
      have hLess :=
        p.poll_yields_lt outside false m left (by rw [hPoll])
      rw [hPoll] at hKeeps
      rw [run_of_waiting hPoll,
        run_eq_poll_sync outside m' (hKeeps.2 left rfl)]
      exact hLeads
  | _ =>
      rw [run_of_ends (by rw [hPoll]; simp), hPoll]
      exact hLeads.symm
termination_by p.yields

end Program

end StorageRouting
