import Mathlib.Logic.Function.Basic
import StorageRouting.Proofs.Routing.Polling

/-
  Futures with scopes of their own, polled in any order: none
  of them sees the keys of another, and the stacks around them
  stay as they are.

  Key definitions include:
    * `Fragment.confined`
    * `Machine.InTask`
    * `Program.abandon`
    * `Future`
    * `Future.Scoped`
    * `Future.HeadsFor`
    * `Pool`
    * `turnsOf`

  Main statements:
    * `Fragment.confined_respects`
    * `Program.abandon_keepsThread`
    * `Future.Scoped.take`
    * `Future.HeadsFor.take`
    * `Pool.run_eq_run_turnsOf`
    * `Pool.run_isolated`
-/

------------------------------------------------------------
-- Confined Programs
------------------------------------------------------------

namespace StorageRouting

/- Blocks that stay on the thread and look up no key. -/
def Block.Confined : Block → Prop
| .attempt => True
| .recover => True
| .scope _ => True
| .syncScope _ => True
| .cancel _ => True
| _ => False

/- Programs that only act on the stack and nest scopes. -/
def Fragment.confined (β : Type) : Fragment β :=
  ⟨fun a => ∃ s, a = .stack s, Block.Confined, True⟩

namespace Machine

variable {β α ω : Type}

/- Inside a task, where no guard of a thread is held. -/
def InTask (m : Machine β α ω) : Prop :=
  m.context.task.isSome ∧ ∀ g ∈ m.guards, g.2 = .onTask

/- From inside a task, the stack of the thread is kept. -/
def KeepsThread (m m' : Machine β α ω) : Prop :=
  m.InTask →
    m'.InTask ∧ m'.context.thread = m.context.thread

namespace KeepsThread

/- Nothing is changed by doing nothing. -/
theorem refl (m : Machine β α ω) : m.KeepsThread m :=
  fun h => ⟨h, rfl⟩

/- One after the other keeps the stack, if both do. -/
theorem trans
    {m₁ m₂ m₃ : Machine β α ω}
    (hLeft : m₁.KeepsThread m₂)
    (hRight : m₂.KeepsThread m₃) : m₁.KeepsThread m₃ := by
  intro h
  rcases hLeft h with ⟨hTask, hThread⟩
  rcases hRight hTask with ⟨hTask', hThread'⟩
  exact ⟨hTask', hThread'.trans hThread⟩

end KeepsThread

/- A change of the stack in force is one of the task's. -/
theorem keepsThread_onStack
    (m : Machine β α ω)
    (f : Stack → Stack) : m.KeepsThread (m.onStack f) := by
  rintro ⟨hTask, hGuards⟩
  rcases m with ⟨⟨thread, task⟩, guards, i, l, w⟩
  cases task with
  | none => simp at hTask
  | some stack => exact ⟨⟨rfl, hGuards⟩, rfl⟩

/- To drop a guard of a task changes the stack of the task. -/
theorem keepsThread_dropGuard
    (m : Machine β α ω)
    (id : String) : m.KeepsThread (m.dropGuard id) := by
  rintro ⟨hTask, hGuards⟩
  unfold dropGuard
  cases hHeld : m.guards.lookup id with
  | none => exact ⟨⟨hTask, hGuards⟩, rfl⟩
  | some kind =>
      have hMem : (id, kind) ∈ m.guards := by
        rcases List.lookup_eq_some_iff.mp hHeld with
          ⟨before, behind, hGuardsEq, _⟩
        rw [hGuardsEq]
        simp
      have hKind : kind = .onTask := hGuards _ hMem
      subst hKind
      refine ⟨⟨?_, ?_⟩, rfl⟩
      · rw [Context.task_isSome_release]
        exact hTask
      · intro g hg
        exact hGuards g (List.mem_filter.mp hg).1

/- A guard that is made inside a task is one of the task. -/
theorem keepsThread_takeGuard
    (m : Machine β α ω)
    (id key : String) : m.KeepsThread (m.takeGuard id key) := by
  intro h
  have hKind : m.context.guardKind = .onTask := by
    unfold Context.guardKind
    rw [if_pos h.1]
  rcases
      ((m.keepsThread_onStack (·.push key)).trans
        (keepsThread_dropGuard _ id)) h with
    ⟨⟨hTask, hGuards⟩, hThread⟩
  refine ⟨⟨hTask, ?_⟩, hThread⟩
  intro g hg
  rcases List.mem_cons.mp hg with rfl | hg
  · exact hKind
  · exact hGuards g hg

/- Every action on the stack keeps the stack of the thread. -/
theorem keepsThread_run
    (outside : Outside β α ω)
    (m : Machine β α ω)
    (a : StackAction) :
    m.KeepsThread (m.run outside (.stack a)) := by
  cases a with
  | push key => exact m.keepsThread_onStack _
  | pop => exact m.keepsThread_onStack _
  | guard id key => exact m.keepsThread_takeGuard id key
  | drop id => exact m.keepsThread_dropGuard id
  | _ => exact .refl m

/- What a confined body keeps, the block around it keeps. -/
theorem keepsThread_frame
    {m m' : Machine β α ω}
    {b : Block}
    {frame : Frame}
    (hBlock : b.Confined)
    (hOpens : b.Opens frame)
    (h :
      KeepsThread
        { m with context := frame.inside m.context } m') :
    m.KeepsThread
      { m' with
        context := frame.outside m.context m'.context } := by
  rintro ⟨hTask, hGuards⟩
  cases frame with
  | plain => exact h ⟨hTask, hGuards⟩
  | straight => exact h ⟨hTask, hGuards⟩
  | own keys =>
      rcases h ⟨rfl, hGuards⟩ with ⟨hInside, hThread⟩
      exact ⟨⟨hTask, hInside.2⟩, hThread⟩
  | given keys =>
      rcases h ⟨rfl, hGuards⟩ with ⟨hInside, hThread⟩
      exact ⟨⟨hTask, hInside.2⟩, hThread⟩
  | guarded key =>
      have hPushed :=
        m.keepsThread_onStack (·.push key) ⟨hTask, hGuards⟩
      rcases h hPushed.1 with ⟨hInside, hThread⟩
      have hKind : m.context.guardKind = .onTask := by
        unfold Context.guardKind
        rw [if_pos hTask]
      simp only [Frame.outside, hKind]
      refine ⟨⟨?_, hInside.2⟩, hThread.trans hPushed.2⟩
      exact
        (Context.task_isSome_release .onTask _).trans hInside.1
  | newThread =>
      cases b <;>
        first
          | exact hBlock.elim
          | exact hOpens.elim

end Machine

/- Confined programs keep the stack of the thread. -/
theorem Fragment.confined_respects
    {β α ω : Type}
    (outside : Outside β α ω) :
    (Fragment.confined β).Respects outside
      Machine.KeepsThread where
  refl m := .refl m
  trans _ _ _ h₁ h₂ := h₁.trans h₂
  act m a h := by
    rcases h with ⟨s, rfl⟩
    exact m.keepsThread_run outside s
  log m _ := .refl m
  openBlock m b _ := by
    cases b <;> exact .refl m
  frame _ _ _ _ hBlock hOpens h :=
    Machine.keepsThread_frame hBlock hOpens h

end StorageRouting

------------------------------------------------------------
-- Dropping
------------------------------------------------------------

namespace StorageRouting

/- Let all guards go. -/
def Machine.dropGuards
    {β α ω : Type}
    (m : Machine β α ω) : Machine β α ω :=
  { m with
    context :=
      m.guards.foldl (fun c g => c.release g.2) m.context
    guards := [] }

mutual

/-
  Give up a program that gave way: what it holds is let go
  inside the frames that it is in.
-/
def Program.abandon
    {β α ω : Type}
    (m : Machine β α ω) :
    Program β → Machine β α ω
| .begun _ frame body _ =>
    (frame.within true m
      (fun _ m => (.finished, body.abandon m))).machine
| .join branches _ => branches.abandon m
| _ => m.dropGuards

/- Give up branches, in order. -/
def Branches.abandon
    {β α ω : Type}
    (m : Machine β α ω) :
    Branches β → Machine β α ω
| .nil => m.dropGuards
| .cons first others => others.abandon (first.abandon m)

end

/- Guards of a task, let go inside it, keep the thread's stack. -/
theorem Machine.keepsThread_dropGuards
    {β α ω : Type}
    (m : Machine β α ω) : m.KeepsThread m.dropGuards := by
  have hAll :
      ∀ (guards : List (String × GuardKind)) (c : Context),
        (∀ g ∈ guards, g.2 = .onTask) →
          (guards.foldl (fun c g => c.release g.2) c).thread =
              c.thread ∧
            (guards.foldl (fun c g => c.release g.2)
              c).task.isSome = c.task.isSome := by
    intro guards
    induction guards with
    | nil => exact fun c _ => ⟨rfl, rfl⟩
    | cons g guards ih =>
        intro c hGuards
        have hRest :=
          ih (c.release g.2)
            (fun g hg => hGuards g (List.mem_cons_of_mem _ hg))
        rw [List.foldl_cons, hRest.1, hRest.2,
          Context.task_isSome_release,
          hGuards g List.mem_cons_self]
        exact ⟨rfl, rfl⟩
  rintro ⟨hTask, hGuards⟩
  rcases hAll m.guards m.context hGuards with ⟨hThread, hSome⟩
  exact ⟨⟨hSome.trans hTask, by simp [dropGuards]⟩, hThread⟩

mutual

/-
  To give up a program keeps what frames keep, if letting the
  guards go does.
-/
theorem Program.abandon_keeps
    {β α ω : Type}
    {f : Fragment β}
    {R : Machine β α ω → Machine β α ω → Prop}
    (hTrans : ∀ m₁ m₂ m₃, R m₁ m₂ → R m₂ m₃ → R m₁ m₃)
    (hFrame :
      ∀ m m' b frame, f.block b → b.Opens frame →
        R { m with context := frame.inside m.context } m' →
          R m
            { m' with
              context := frame.outside m.context m'.context })
    (hDrop : ∀ m, R m m.dropGuards)
    (m : Machine β α ω) :
    ∀ p : Program β, p.In f → R m (p.abandon m)
| .begun b frame body rest, hIn => by
    rw [Program.abandon, frame.machine_within]
    have hBody :=
      Program.abandon_keeps hTrans hFrame hDrop
        { m with context := frame.inside m.context } body
        hIn.2.2.1
    exact hFrame m _ b frame hIn.1 hIn.2.1 hBody
| .join branches rest, hIn => by
    rw [Program.abandon]
    exact
      Branches.abandon_keeps hTrans hFrame hDrop m branches
        hIn.2.1
| .done, _
| .act _ _, _
| .yield _, _
| .fail _, _
| .panic _, _
| .block _ _ _, _ => by
    rw [Program.abandon]
    · exact hDrop m
    all_goals simp

/- So does to give up branches. -/
theorem Branches.abandon_keeps
    {β α ω : Type}
    {f : Fragment β}
    {R : Machine β α ω → Machine β α ω → Prop}
    (hTrans : ∀ m₁ m₂ m₃, R m₁ m₂ → R m₂ m₃ → R m₁ m₃)
    (hFrame :
      ∀ m m' b frame, f.block b → b.Opens frame →
        R { m with context := frame.inside m.context } m' →
          R m
            { m' with
              context := frame.outside m.context m'.context })
    (hDrop : ∀ m, R m m.dropGuards)
    (m : Machine β α ω) :
    ∀ branches : Branches β,
      branches.In f → R m (branches.abandon m)
| .nil, _ => by
    rw [Branches.abandon]
    exact hDrop m
| .cons first others, hIn => by
    rw [Branches.abandon]
    have hFirst :=
      Program.abandon_keeps hTrans hFrame hDrop m first hIn.1
    have hOthers :=
      Branches.abandon_keeps hTrans hFrame hDrop
        (first.abandon m) others hIn.2
    exact hTrans _ _ _ hFirst hOthers

end

/- To give up a confined program keeps the thread's stack. -/
theorem Program.abandon_keepsThread
    {β α ω : Type}
    (m : Machine β α ω)
    {p : Program β}
    (hIn : p.In (Fragment.confined β)) :
    m.KeepsThread (p.abandon m) :=
  Program.abandon_keeps (f := Fragment.confined β)
    (fun _ _ _ h₁ h₂ => h₁.trans h₂)
    (fun _ _ _ _ hBlock hOpens h =>
      Machine.keepsThread_frame hBlock hOpens h)
    Machine.keepsThread_dropGuards m p hIn

/- To give up a program records nothing. -/
theorem Program.record_abandon
    {β α ω : Type}
    {f : Fragment β}
    (m : Machine β α ω)
    {p : Program β}
    (hIn : p.In f) : (p.abandon m).record = m.record :=
  Program.abandon_keeps (f := f)
    (R := fun m m' => m'.record = m.record)
    (fun _ _ _ h₁ h₂ => h₂.trans h₁)
    (fun _ _ _ _ _ _ h => h) (fun _ => rfl) m p hIn

end StorageRouting

------------------------------------------------------------
-- Records
------------------------------------------------------------

namespace StorageRouting

variable {β α ω : Type}

namespace Machine

/- The record of one machine begins like that of another. -/
def RecordGrows (m m' : Machine β α ω) : Prop :=
  ∃ later, m'.record = later ++ m.record

/- An action adds one line. -/
theorem recordGrows_run
    (outside : Outside β α ω)
    (m : Machine β α ω)
    (a : Act β) : m.RecordGrows (m.run outside a) := by
  have hDrop :
      ∀ (m : Machine β α ω) id,
        (m.dropGuard id).record = m.record := by
    intro m id
    unfold dropGuard
    split <;> rfl
  cases a with
  | stack a =>
      refine ⟨[.stack a (m.runStack a).1], ?_⟩
      cases a with
      | guard id key => exact congrArg (_ :: ·) (hDrop _ id)
      | drop id => exact congrArg (_ :: ·) (hDrop m id)
      | _ => rfl
  | route a =>
      refine ⟨[.route a (m.runRoute a).1], ?_⟩
      cases a <;> rfl
  | outside b =>
      exact
        ⟨[.outside b (outside b m.context.current m.world).1], rfl⟩

end Machine

/- No program takes a line back. -/
theorem Fragment.recordGrows
    (f : Fragment β)
    (outside : Outside β α ω) :
    f.Respects outside Machine.RecordGrows where
  refl m := ⟨[], rfl⟩
  trans _ _ _ h₁ h₂ := by
    rcases h₁ with ⟨first, hFirst⟩
    rcases h₂ with ⟨second, hSecond⟩
    exact ⟨second ++ first, by simp [hFirst, hSecond]⟩
  act m a _ := m.recordGrows_run outside a
  log m e := ⟨[e], rfl⟩
  openBlock m b _ := ⟨[], by cases b <;> rfl⟩
  frame _ _ _ _ _ _ h := h

/- A run adds to the record. -/
theorem Program.recordGrows_run
    {f : Fragment β}
    (outside : Outside β α ω)
    {p : Program β}
    (m : Machine β α ω)
    (hIn : p.In f) : m.RecordGrows (p.run outside m).2 := by
  have hKeeps :=
    Program.poll_keeps (f.recordGrows outside) false m p hIn
  rcases hPoll : p.poll outside false m with ⟨o, m'⟩
  rw [hPoll] at hKeeps
  cases o with
  | waiting left =>
      have hLess :=
        p.poll_yields_lt outside false m left (by rw [hPoll])
      rw [run_of_waiting hPoll]
      have hLater :=
        recordGrows_run outside m' (hKeeps.2 left rfl)
      exact (f.recordGrows outside).trans _ _ _ hKeeps.1 hLater
  | _ =>
      rw [run_of_ends (by rw [hPoll]; simp), hPoll]
      exact hKeeps.1
termination_by p.yields

end StorageRouting

------------------------------------------------------------
-- Futures
------------------------------------------------------------

namespace StorageRouting

/- How far a future has come. -/
inductive Stage (β : Type) where
| left (p : Program β) : Stage β
| ended (o : Outcome β) : Stage β
| dropped : Stage β

/- How far a poll brings a future. -/
def Outcome.stage
    {β : Type} :
    Outcome β → Stage β
| .waiting p => .left p
| o => .ended o

/-
  A future: how far it has come, and the state from which it
  goes on.  It goes on with the stacks of that time.
-/
structure Future (β α ω : Type) where
  stage : Stage β
  machine : Machine β α ω

/- What can happen to a future. -/
inductive Turn where
| poll : Turn
| drop : Turn
deriving DecidableEq, Repr

namespace Future

variable {β α ω : Type}

/- A future with a scope of its own, before its first poll. -/
def inScope
    (interceptor : Interceptor)
    (world : ω)
    (key : String)
    (body : Program β) : Future β α ω :=
  ⟨.left (.block (.scope key) body .done),
    .start interceptor world⟩

/-
  Let a future take a turn under the present stacks.  One that
  has ended or was dropped takes no more turns.
-/
def take
    (outside : Outside β α ω)
    (c : Context)
    (f : Future β α ω)
    (t : Turn) : Future β α ω × Context :=
  match f.stage, t with
  | .left p, .poll =>
      let (o, m) :=
        p.poll outside false { f.machine with context := c }
      (⟨o.stage, m⟩, m.context)
  | .left p, .drop =>
      let m := p.abandon { f.machine with context := c }
      (⟨.dropped, m⟩, m.context)
  | _, _ => (f, c)

/- Let a future take turns, with nothing between them. -/
def run
    (outside : Outside β α ω) :
    List Turn → Future β α ω × Context → Future β α ω × Context
| [], x => x
| t :: ts, x => run outside ts (x.1.take outside x.2 t)

/-
  What a future with a scope of its own can come to: until it
  is polled first it holds nothing, and afterwards what is left
  of it runs on a stack of its own and holds guards of tasks.
-/
inductive Scoped : Future β α ω → Prop where
| fresh
    (key : String)
    (body : Program β)
    (m : Machine β α ω)
    (hIn : body.In (Fragment.confined β))
    (hGuards : m.guards = []) :
    Scoped ⟨.left (.block (.scope key) body .done), m⟩
| begun
    (key : String)
    (keys : Stack)
    (body : Program β)
    (m : Machine β α ω)
    (hIn : body.In (Fragment.confined β))
    (hGuards : ∀ g ∈ m.guards, g.2 = .onTask) :
    Scoped
      ⟨.left (.begun (.scope key) (.own keys) body .done), m⟩
| ended
    (o : Outcome β)
    (m : Machine β α ω) :
    Scoped ⟨.ended o, m⟩
| dropped (m : Machine β α ω) : Scoped ⟨.dropped, m⟩

/- A new future with a scope of its own is one. -/
theorem scoped_inScope
    (interceptor : Interceptor)
    (world : ω)
    (key : String)
    {body : Program β}
    (hIn : body.In (Fragment.confined β)) :
    Scoped
      (inScope interceptor world key body : Future β α ω) :=
  .fresh key body _ hIn rfl

/-
  A body on a stack of its own that keeps the thread's stack
  keeps both stacks around it.
-/
theorem context_outside_own
    {m m' : Machine β α ω}
    {keys : Stack}
    (hGuards : ∀ g ∈ m.guards, g.2 = .onTask)
    (h :
      Machine.KeepsThread
        { m with
          context := (Frame.own keys).inside m.context } m') :
    (Frame.own keys).outside m.context m'.context = m.context ∧
      ∀ g ∈ m'.guards, g.2 = .onTask := by
  rcases h ⟨rfl, hGuards⟩ with ⟨hInside, hThread⟩
  refine ⟨?_, hInside.2⟩
  simp only [Frame.outside, hThread]
  rfl

/- A poll of a scope that has begun keeps both stacks. -/
theorem scoped_poll_begun
    (outside : Outside β α ω)
    (key : String)
    (keys : Stack)
    {body : Program β}
    (m : Machine β α ω)
    (hIn : body.In (Fragment.confined β))
    (hGuards : ∀ g ∈ m.guards, g.2 = .onTask) :
    let r :=
      (Program.begun (.scope key) (.own keys) body .done).poll
        outside false m
    Scoped ⟨r.1.stage, r.2⟩ ∧ r.2.context = m.context := by
  have hInner :=
    Program.poll_keeps (Fragment.confined_respects outside)
      false
      { m with context := (Frame.own keys).inside m.context }
      body hIn
  rcases context_outside_own hGuards hInner.1 with
    ⟨hContext, hHeld⟩
  rcases Program.poll_begun_cases outside false m (.scope key)
      (.own keys) body .done with
    ⟨left, frame', hWaits, hStill, hEq⟩ | ⟨failure, hEq⟩ |
      ⟨message, failure, hEq⟩ | ⟨message, hEq⟩
  · rw [hEq]
    have hFrame : ∃ keys', frame' = .own keys' := by
      have hOpens := hStill trivial
      cases frame' with
      | own keys' => exact ⟨keys', rfl⟩
      | _ => exact hOpens.elim
    rcases hFrame with ⟨keys', rfl⟩
    have hLeft := hInner.2 left hWaits
    exact ⟨.begun key keys' left _ hLeft hHeld, hContext⟩
  · rw [hEq, Program.poll]
    exact ⟨.ended _ _, hContext⟩
  · rw [hEq]
    exact ⟨.ended _ _, hContext⟩
  · rw [hEq]
    exact ⟨.ended _ _, hContext⟩

/- A turn of such a future keeps both stacks around it. -/
theorem Scoped.take
    (outside : Outside β α ω)
    {f : Future β α ω}
    (h : f.Scoped)
    (c : Context)
    (t : Turn) :
    (f.take outside c t).1.Scoped ∧
      (f.take outside c t).2 = c := by
  cases h with
  | fresh key body m hIn hGuards =>
      cases t with
      | poll =>
          simp only [Future.take]
          rw [Program.poll_block]
          exact
            scoped_poll_begun outside key _ _ hIn
              (by simp [Machine.openBlock, hGuards])
      | drop =>
          refine ⟨.dropped _, ?_⟩
          simp [Future.take, Program.abandon,
            Machine.dropGuards, hGuards]
  | begun key keys body m hIn hGuards =>
      cases t with
      | poll =>
          exact scoped_poll_begun outside key keys _ hIn hGuards
      | drop =>
          refine ⟨.dropped _, ?_⟩
          simp only [Future.take]
          rw [Program.abandon, Frame.machine_within]
          exact
            (context_outside_own
              (m := { m with context := c }) hGuards
              (Program.abandon_keepsThread _ hIn)).1
  | ended o m => cases t <;> exact ⟨.ended o m, rfl⟩
  | dropped m => cases t <;> exact ⟨.dropped m, rfl⟩

/- What is left of such a future is confined. -/
theorem Scoped.left_in
    {p : Program β}
    {m : Machine β α ω}
    (h : Scoped ⟨.left p, m⟩) :
    p.In (Fragment.confined β) := by
  cases h with
  | fresh key body m hIn hGuards =>
      exact ⟨trivial, hIn, trivial⟩
  | begun key keys body m hIn hGuards =>
      exact ⟨trivial, trivial, hIn, trivial⟩

/-
  A future heads for a result under the present stacks: it runs
  to it, has come to it, or was dropped when it had recorded a
  part of it.
-/
def HeadsFor
    (outside : Outside β α ω)
    (c : Context)
    (result : Outcome β × Machine β α ω)
    (f : Future β α ω) : Prop :=
  match f.stage with
  | .left p =>
      p.run outside { f.machine with context := c } = result
  | .ended o => (o, f.machine) = result
  | .dropped => f.machine.RecordGrows result.2

/- A turn of a future does not change what it heads for. -/
theorem HeadsFor.take
    {outside : Outside β α ω}
    {c : Context}
    {result : Outcome β × Machine β α ω}
    {f : Future β α ω}
    (h : f.HeadsFor outside c result)
    (hScoped : f.Scoped)
    (t : Turn) :
    (f.take outside c t).1.HeadsFor outside c result := by
  rcases f with ⟨stage, m⟩
  cases stage with
  | left p =>
      have hIn := hScoped.left_in
      simp only [HeadsFor] at h
      cases t with
      | poll =>
          have hContext := (hScoped.take outside c .poll).2
          simp only [Future.take] at hContext ⊢
          rcases hPoll :
              p.poll outside false { m with context := c } with
            ⟨o, m'⟩
          rw [hPoll] at hContext
          cases o with
          | waiting left =>
              simp only [Outcome.stage, HeadsFor]
              rw [← h, Program.run_of_waiting hPoll]
              simp only [← hContext]
          | _ =>
              simp only [Outcome.stage, HeadsFor]
              rw [← h,
                Program.run_of_ends (by rw [hPoll]; simp), hPoll]
      | drop =>
          have hGrows :=
            Program.recordGrows_run outside
              { m with context := c } hIn
          have hSame :=
            Program.record_abandon { m with context := c } hIn
          rw [h] at hGrows
          simp only [Future.take, HeadsFor]
          unfold Machine.RecordGrows at hGrows ⊢
          rw [hSame]
          exact hGrows
  | ended o => cases t <;> exact h
  | dropped => cases t <;> exact h

/- What a future has recorded is a part of what it heads for. -/
theorem HeadsFor.recordGrows
    {outside : Outside β α ω}
    {c : Context}
    {result : Outcome β × Machine β α ω}
    {f : Future β α ω}
    (h : f.HeadsFor outside c result)
    (hScoped : f.Scoped) : f.machine.RecordGrows result.2 := by
  rcases f with ⟨stage, m⟩
  cases stage with
  | left p =>
      have hGrows :=
        Program.recordGrows_run outside
          { m with context := c } hScoped.left_in
      rw [← h]
      exact hGrows
  | ended o =>
      rw [← h]
      exact ⟨[], rfl⟩
  | dropped => exact h

/- Turns of a future keep the stacks and what it heads for. -/
theorem Scoped.run
    {outside : Outside β α ω}
    {c : Context}
    {result : Outcome β × Machine β α ω}
    (ts : List Turn)
    {f : Future β α ω}
    (hScoped : f.Scoped)
    (h : f.HeadsFor outside c result) :
    (Future.run outside ts (f, c)).1.Scoped ∧
      (Future.run outside ts (f, c)).2 = c ∧
      (Future.run outside ts (f, c)).1.HeadsFor outside c
        result := by
  induction ts generalizing f with
  | nil => exact ⟨hScoped, rfl, h⟩
  | cons t ts ih =>
      have hTaken := hScoped.take outside c t
      have hHeads := h.take hScoped t
      have hEq :
          f.take outside c t = ((f.take outside c t).1, c) :=
        Prod.ext rfl hTaken.2
      rw [Future.run, hEq]
      exact ih hTaken.1 hHeads

end Future

end StorageRouting

------------------------------------------------------------
-- Pools
------------------------------------------------------------

namespace StorageRouting

/- Futures that are polled in turns, and the stacks around. -/
structure Pool (ι β α ω : Type) where
  context : Context
  futures : ι → Future β α ω

/- The turns of one future in a schedule. -/
def turnsOf
    {ι : Type}
    [DecidableEq ι]
    (i : ι)
    (schedule : List (ι × Turn)) : List Turn :=
  (schedule.filter (fun x => x.1 = i)).map Prod.snd

namespace Pool

variable {ι β α ω : Type}
variable [DecidableEq ι]

/- Let one future take a turn. -/
def step
    (outside : Outside β α ω)
    (pool : Pool ι β α ω)
    (x : ι × Turn) : Pool ι β α ω :=
  let (f, context) :=
    (pool.futures x.1).take outside pool.context x.2
  ⟨context, Function.update pool.futures x.1 f⟩

/- Let futures take turns as a schedule says. -/
def run
    (outside : Outside β α ω) :
    List (ι × Turn) → Pool ι β α ω → Pool ι β α ω
| [], pool => pool
| x :: schedule, pool => run outside schedule (pool.step outside x)

/-
  Under any schedule the stacks around the futures stay as they
  are, and every future comes to where its own turns bring it.
-/
theorem run_eq_run_turnsOf
    (outside : Outside β α ω)
    (schedule : List (ι × Turn))
    (pool : Pool ι β α ω)
    (hScoped : ∀ i, (pool.futures i).Scoped) :
    (run outside schedule pool).context = pool.context ∧
      ∀ i,
        (run outside schedule pool).futures i =
          (Future.run outside (turnsOf i schedule)
            (pool.futures i, pool.context)).1 := by
  induction schedule generalizing pool with
  | nil => exact ⟨rfl, fun i => rfl⟩
  | cons x schedule ih =>
      rcases x with ⟨j, t⟩
      have hTaken := (hScoped j).take outside pool.context t
      have hContext :
          (pool.step outside (j, t)).context = pool.context :=
        hTaken.2
      have hFutures :
          ∀ i,
            (pool.step outside (j, t)).futures i =
              if i = j then
                ((pool.futures j).take outside pool.context t).1
              else pool.futures i := by
        intro i
        simp only [step, Function.update_apply]
      have hAll :
          ∀ i, ((pool.step outside (j, t)).futures i).Scoped := by
        intro i
        rw [hFutures i]
        split
        · exact hTaken.1
        · exact hScoped i
      rcases ih (pool.step outside (j, t)) hAll with
        ⟨hAround, hEach⟩
      rw [run]
      refine ⟨hAround.trans hContext, fun i => ?_⟩
      rw [hEach i, hFutures i, hContext]
      by_cases hMine : j = i
      · subst hMine
        have hTurns :
            turnsOf j ((j, t) :: schedule) =
              t :: turnsOf j schedule := by
          simp [turnsOf]
        rw [if_pos rfl, hTurns, Future.run]
        exact
          congrArg
            (fun c =>
              (Future.run outside (turnsOf j schedule)
                (((pool.futures j).take outside pool.context
                  t).1, c)).1)
            hTaken.2.symm
      · have hTurns :
            turnsOf i ((j, t) :: schedule) =
              turnsOf i schedule := by
          simp [turnsOf, hMine]
        rw [if_neg (fun h => hMine h.symm), hTurns]

/-
  Isolation of tasks.  Futures with scopes of their own around
  confined bodies take turns in any order, and may be dropped
  at any of them.  The stacks around them stay as they are.
  Every future comes to where its own turns alone bring it; one
  that has ended has come to what its program runs to alone;
  and what any has recorded is a part of what its program
  records alone.
-/
theorem run_isolated
    (outside : Outside β α ω)
    (interceptor : Interceptor)
    (world : ω)
    (context : Context)
    (keys : ι → String)
    (bodies : ι → Program β)
    (hIn : ∀ i, (bodies i).In (Fragment.confined β))
    (schedule : List (ι × Turn)) :
    let start (i : ι) : Future β α ω :=
      .inScope interceptor world (keys i) (bodies i)
    let alone (i : ι) : Outcome β × Machine β α ω :=
      (Program.block (.scope (keys i)) (bodies i) .done).run
        outside
        { Machine.start interceptor world with context }
    let pool := run outside schedule ⟨context, start⟩
    pool.context = context ∧
      ∀ i,
        pool.futures i =
            (Future.run outside (turnsOf i schedule)
              (start i, context)).1 ∧
          (∀ o,
            (pool.futures i).stage = .ended o →
              (o, (pool.futures i).machine) = alone i) ∧
          (pool.futures i).machine.RecordGrows (alone i).2 := by
  intro start alone pool
  have hStart : ∀ i, (start i).Scoped :=
    fun i =>
      Future.scoped_inScope interceptor world (keys i) (hIn i)
  rcases run_eq_run_turnsOf outside schedule ⟨context, start⟩
      hStart with
    ⟨hContext, hEach⟩
  refine ⟨hContext, fun i => ?_⟩
  have hHeads : (start i).HeadsFor outside context (alone i) := rfl
  rcases (hStart i).run (turnsOf i schedule) hHeads with
    ⟨hScoped, _, hHeads⟩
  rw [← hEach i] at hScoped hHeads
  refine ⟨hEach i, ?_, hHeads.recordGrows hScoped⟩
  intro o hEnded
  have hHeads :
      (pool.futures i).HeadsFor outside context (alone i) :=
    hHeads
  simp only [Future.HeadsFor, hEnded] at hHeads
  exact hHeads

/-
  Two bodies: one takes more keys away than it put there, the
  other holds a guard while it gives way.
-/
def sampleBodies : Bool → Program Empty
| true =>
    .act (.stack .pop)
      (.act (.stack .pop)
        (.yield (.act (.stack .snapshot) .done)))
| false =>
    .act (.stack (.guard "held" "deep"))
      (.yield (.act (.stack .peek) .done))

/- The sample runs isolated, though one of the two is dropped. -/
theorem run_isolated_sample :
    let pool :=
      run nofun
        [(true, .poll), (false, .poll), (true, .poll),
          (false, .drop)]
        ⟨⟨["root"], none⟩, fun i : Bool =>
          (Future.inScope .standard () "key" (sampleBodies i) :
            Future Empty Empty Unit)⟩
    (∀ i, (sampleBodies i).In (Fragment.confined Empty)) ∧
      pool.context = ⟨["root"], none⟩ ∧
      (pool.futures true).machine.record =
        [.ended (.scope "key") ["root"] none,
          .stack .snapshot (.keys []), .stack .pop (.keys []),
          .stack .pop (.keys ["root"])] ∧
      (pool.futures false).stage = .dropped := by
  have hIn :
      ∀ i, (sampleBodies i).In (Fragment.confined Empty) := by
    intro i
    cases i <;>
      simp [sampleBodies, Program.In, Fragment.confined]
  have hIsolated :=
    run_isolated (nofun : Outside Empty Empty Unit) .standard ()
      ⟨["root"], none⟩ (fun _ => "key") sampleBodies hIn
      [(true, .poll), (false, .poll), (true, .poll),
        (false, .drop)]
  exact ⟨hIn, hIsolated.1, rfl, rfl⟩

end Pool

end StorageRouting
