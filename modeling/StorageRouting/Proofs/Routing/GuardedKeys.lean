import Mathlib.Tactic.ByContra
import StorageRouting.Proofs.Routing.GuardAccount

/-
  Whose key a guard takes away.  To drop a guard takes the top
  key of the stack in force of its kind away, and this is the
  guard's own key exactly when nothing stands above it there.
  Programs that drop their guards in order cannot tell the
  difference; others can.

  Key definitions include:
    * `Tracked.OnTop`
    * `Tracked.Spent`
    * `Tracked.Numbered`
    * `GuardProgram.Orderly`
    * `Tracked.Stands`

  Main statements:
    * `GuardProgram.numbered_left`
    * `Tracked.popTop_eq_popOwn_iff`
    * `GuardProgram.popOwn_of_orderly`
    * `GuardProgram.stands_left`
    * `GuardProgram.dropped_guards_take_the_top`
-/

------------------------------------------------------------
-- Numbers Stay Apart
------------------------------------------------------------

namespace StorageRouting

namespace Tracked

/- No two keys have one number, and later pushes take others. -/
structure Numbered (T : Tracked) : Prop where
  nodup : (T.all.map Pushed.number).Nodup
  lt_next : ∀ p ∈ T.all, p.number < T.next

/-
  A kind of stack that is not in force stays as it is; one that
  is in force is changed among the others.
-/
theorem change_cases
    (T : Tracked)
    (kind : GuardKind) :
    (T.stackOf? kind = none ∧ ∀ f, T.change kind f = T) ∨
      ∃ s before after,
        T.stackOf? kind = some s ∧
        T.all = before ++ s ++ after ∧
        ∀ f, (T.change kind f).all = before ++ f s ++ after := by
  rcases T with ⟨thread, tasks, held, next⟩
  cases kind with
  | onThread =>
      exact
        Or.inr ⟨thread, [], tasks.flatten, rfl, rfl, fun f => rfl⟩
  | onTask =>
      cases tasks with
      | nil => exact Or.inl ⟨rfl, fun f => rfl⟩
      | cons s around =>
          refine
            Or.inr ⟨s, thread, around.flatten, rfl, ?_, ?_⟩
          · simp [all]
          · intro f
            simp [all, change]

/- The stack in force is that of the kind in force. -/
theorem stackOf?_kind (T : Tracked) :
    T.stackOf? T.kind = some T.current := by
  rcases T with ⟨thread, tasks, held, next⟩
  cases tasks <;> rfl

/- A stack in force is one of the stacks. -/
theorem mem_all_of_mem_stackOf?
    {T : Tracked}
    {kind : GuardKind}
    {s : List Pushed}
    (hStack : T.stackOf? kind = some s)
    {p : Pushed}
    (hMem : p ∈ s) : p ∈ T.all := by
  rcases T.change_cases kind with
    ⟨hNone, _⟩ | ⟨_, before, after, hSome, hAll, _⟩
  · rw [hNone] at hStack
    cases hStack
  · rw [hSome] at hStack
    cases hStack
    rw [hAll]
    simp [hMem]

/- What loses keys and goes on counting stays numbered. -/
theorem Numbered.of_sublist
    {T U : Tracked}
    (h : T.Numbered)
    (hAll : List.Sublist U.all T.all)
    (hNext : T.next ≤ U.next) : U.Numbered where
  nodup := h.nodup.sublist (hAll.map _)
  lt_next p hp :=
    Nat.lt_of_lt_of_le (h.lt_next p (hAll.subset hp)) hNext

/- What gains keys with new numbers stays numbered. -/
theorem Numbered.of_perm
    {T U : Tracked}
    (h : T.Numbered)
    (new : List Pushed)
    (hAll : U.all.Perm (new ++ T.all))
    (hNodup : (new.map Pushed.number).Nodup)
    (hNew : ∀ p ∈ new, T.next ≤ p.number ∧ p.number < U.next)
    (hNext : T.next ≤ U.next) : U.Numbered where
  nodup := by
    rw [(hAll.map _).nodup_iff, List.map_append,
      List.nodup_append]
    refine ⟨hNodup, h.nodup, ?_⟩
    intro n hn k hk hSame
    rcases List.mem_map.mp hn with ⟨p, hp, rfl⟩
    rcases List.mem_map.mp hk with ⟨q, hq, rfl⟩
    have hFresh := (hNew p hp).1
    have hOld := h.lt_next q hq
    omega
  lt_next p hp := by
    rcases List.mem_append.mp (hAll.subset hp) with
      hNewer | hOlder
    · exact (hNew p hNewer).2
    · exact Nat.lt_of_lt_of_le (h.lt_next p hOlder) hNext

/- A stack that loses its top stays numbered. -/
theorem Numbered.change_dropLast
    {T : Tracked}
    (h : T.Numbered)
    (kind : GuardKind) :
    (T.change kind List.dropLast).Numbered := by
  have hNext : (T.change kind List.dropLast).next = T.next := by
    cases kind <;> rfl
  rcases T.change_cases kind with
    ⟨_, hSame⟩ | ⟨s, before, after, _, hAll, hChanged⟩
  · rw [hSame]
    exact h
  · refine h.of_sublist ?_ (Nat.le_of_eq hNext.symm)
    rw [hChanged, hAll]
    exact
      ((List.Sublist.refl before).append
        (List.dropLast_sublist s)).append (.refl after)

/- A push keeps the numbers apart. -/
theorem Numbered.push
    {T : Tracked}
    (h : T.Numbered)
    (key : String) : (T.push key).Numbered := by
  rcases T.change_cases T.kind with
    ⟨hNone, _⟩ | ⟨s, before, after, _, hAll, hChanged⟩
  · rw [T.stackOf?_kind] at hNone
    cases hNone
  · refine
      h.of_perm [⟨T.next, key⟩] ?_ (by simp) ?_
        (Nat.le_succ _)
    · have hPushed :
          (T.push key).all =
            (before ++ s) ++ ⟨T.next, key⟩ :: after := by
        refine (hChanged (· ++ [⟨T.next, key⟩])).trans ?_
        simp
      rw [hPushed, hAll]
      exact List.perm_middle
    · intro p hp
      rw [List.mem_singleton.mp hp]
      exact ⟨Nat.le_refl _, Nat.lt_succ_self _⟩

/- To drop a guard keeps the numbers apart. -/
theorem Numbered.drop
    {T : Tracked}
    (h : T.Numbered)
    (id : String) : (T.drop popTop id).Numbered := by
  unfold Tracked.drop
  cases T.held.lookup id with
  | none => exact h
  | some g =>
      have hPopped := h.change_dropLast g.kind
      exact ⟨hPopped.nodup, hPopped.lt_next⟩

/- To make a guard keeps the numbers apart. -/
theorem Numbered.enter
    {T : Tracked}
    (h : T.Numbered)
    (id key : String) : (T.enter popTop id key).Numbered :=
  have hBoth := (h.push key).drop id
  ⟨hBoth.nodup, hBoth.lt_next⟩

/- To open a scope keeps the numbers apart. -/
theorem Numbered.openScope
    {T : Tracked}
    (h : T.Numbered)
    (key : String) : (T.openScope key).Numbered := by
  let keys := T.stack ++ [key]
  let new : List Pushed :=
    (keys.zipIdx T.next).map (fun x => ⟨x.2, x.1⟩)
  have hNumbers :
      new.map Pushed.number =
        List.range' T.next keys.length := by
    rw [← List.zipIdx_map_snd T.next keys]
    simp [new, Function.comp_def]
  refine h.of_perm new ?_ ?_ ?_ (Nat.le_add_right _ _)
  · exact List.perm_append_comm_assoc _ _ _
  · rw [hNumbers]
    exact List.nodup_range'
  · intro p hp
    have hNumber :
        p.number ∈ List.range' T.next keys.length := by
      rw [← hNumbers]
      exact List.mem_map_of_mem hp
    exact List.mem_range'_1.mp hNumber

/- To close a scope keeps the numbers apart. -/
theorem Numbered.closeScope
    {T : Tracked}
    (h : T.Numbered) : T.closeScope.Numbered := by
  refine h.of_sublist ?_ (Nat.le_refl _)
  rcases T with ⟨thread, tasks, held, next⟩
  cases tasks with
  | nil => exact .refl _
  | cons s around =>
      simp [all, Tracked.closeScope]

end Tracked

/- Every program keeps the numbers apart. -/
theorem GuardProgram.numbered_left
    (t : GuardProgram)
    {T : Tracked}
    (h : T.Numbered) : (t.left Tracked.popTop T).Numbered := by
  induction t generalizing T with
  | done => exact h
  | push key rest ih => exact ih (h.push key)
  | pop rest ih => exact ih (h.change_dropLast T.kind)
  | enter id key rest ih => exact ih (h.enter id key)
  | drop id rest ih => exact ih (h.drop id)
  | scope key body rest ihBody ihRest =>
      exact ihRest (ihBody (h.openScope key)).closeScope

end StorageRouting

------------------------------------------------------------
-- Whose Key Is Taken Away
------------------------------------------------------------

namespace StorageRouting

namespace Tracked

/- What the guard pushed stands on top of its kind of stack. -/
def OnTop
    (g : Guard)
    (T : Tracked) : Prop :=
  (T.top? g.kind).map Pushed.number = some g.number

/-
  What the guard pushed stands nowhere any more, and its kind
  of stack is empty.
-/
def Spent
    (g : Guard)
    (T : Tracked) : Prop :=
  T.top? g.kind = none ∧ ∀ p ∈ T.all, p.number ≠ g.number

/-
  Of a stack with distinct numbers, to take one number away is
  to take the top away exactly when the top has that number, or
  the stack is empty.
-/
theorem filter_eq_dropLast_iff
    {s : List Pushed}
    (hNodup : (s.map Pushed.number).Nodup)
    (n : Nat) :
    s.filter (·.number ≠ n) = s.dropLast ↔
      s.getLast?.map Pushed.number = some n ∨ s = [] := by
  rcases s.eq_nil_or_concat with rfl | ⟨below, p, rfl⟩
  · simp
  · simp only [List.concat_eq_append, List.map_append,
      List.nodup_append] at hNodup
    have hAbove : ∀ q ∈ below, q.number ≠ p.number := by
      intro q hq hSame
      exact
        hNodup.2.2 _ (List.mem_map_of_mem hq) _ (by simp) hSame
    simp only [List.concat_eq_append, List.dropLast_concat,
      List.getLast?_concat, Option.map_some, Option.some.injEq]
    constructor
    · intro hSame
      left
      by_contra hOther
      have hKept :
          p ∈ (below ++ [p]).filter (·.number ≠ n) := by
        simp [hOther]
      rw [hSame] at hKept
      exact hAbove p hKept rfl
    · rintro (rfl | hNil)
      · rw [List.filter_append]
        simpa using hAbove
      · simp at hNil

/-
  To take the top away is to take one number away from all
  stacks exactly when the number is on top, or it is nowhere
  and there is no top.
-/
theorem takes_number_iff
    {s others : List Pushed}
    (hNodup : ((s ++ others).map Pushed.number).Nodup)
    (n : Nat) :
    (s.filter (·.number ≠ n) = s.dropLast ∧
        ∀ p ∈ others, p.number ≠ n) ↔
      s.getLast?.map Pushed.number = some n ∨
        (s.getLast? = none ∧
          ∀ p ∈ s ++ others, p.number ≠ n) := by
  simp only [List.map_append, List.nodup_append] at hNodup
  rw [filter_eq_dropLast_iff hNodup.1]
  constructor
  · rintro ⟨hTop | rfl, hOthers⟩
    · exact Or.inl hTop
    · exact Or.inr ⟨rfl, by simpa using hOthers⟩
  · rintro (hTop | ⟨hNone, hGone⟩)
    · refine ⟨Or.inl hTop, ?_⟩
      intro q hq hSame
      rcases Option.map_eq_some_iff.mp hTop with
        ⟨p, hLast, hNumber⟩
      have hMem := List.mem_of_getLast? hLast
      exact
        hNodup.2.2 _ (List.mem_map_of_mem hMem) _
          (List.mem_map_of_mem hq) (hNumber.trans hSame.symm)
    · refine ⟨Or.inr (List.getLast?_eq_none_iff.mp hNone), ?_⟩
      intro q hq
      exact hGone q (List.mem_append_right _ hq)

/- Stacks lose nothing when the number is on none of them. -/
theorem map_filter_eq_self_iff
    (around : List (List Pushed))
    (n : Nat) :
    around.map (·.filter (·.number ≠ n)) = around ↔
      ∀ p ∈ around.flatten, p.number ≠ n := by
  induction around with
  | nil => simp
  | cons s around ih =>
      rw [List.map_cons, List.cons.injEq, ih,
        List.filter_eq_self]
      simp only [List.flatten_cons, List.mem_append,
        decide_eq_true_eq]
      constructor
      · rintro ⟨hHere, hThere⟩ p (hp | hp)
        · exact hHere p hp
        · exact hThere p hp
      · intro hAll
        exact
          ⟨fun p hp => hAll p (Or.inl hp),
            fun p hp => hAll p (Or.inr hp)⟩

/-
  To drop a guard takes its own key away exactly when that is
  on top of the stack in force of its kind, or when it has none
  left and there is nothing to take away.
-/
theorem popTop_eq_popOwn_iff
    {T : Tracked}
    (h : T.Numbered)
    (g : Guard) :
    T.popTop g = T.popOwn g ↔ T.OnTop g ∨ T.Spent g := by
  rcases T with ⟨thread, tasks, held, next⟩
  rcases g with ⟨kind, n, key⟩
  have hNodup := h.nodup
  simp only [all] at hNodup
  cases kind with
  | onThread =>
      have hTakes := takes_number_iff hNodup n
      simp only [popTop, change, popOwn, OnTop, Spent, top?,
        stackOf?, Option.bind_some, mk.injEq, all, and_true]
      rw [eq_comm, @eq_comm _ tasks, map_filter_eq_self_iff]
      exact hTakes
  | onTask =>
      cases tasks with
      | nil =>
          simp only [popTop, change, popOwn, OnTop, Spent, top?,
            stackOf?, mk.injEq, all, List.modifyHead_nil,
            List.map_nil, List.flatten_nil, List.append_nil,
            List.head?_nil, Option.bind_none, Option.map_none,
            true_and, and_true, reduceCtorEq, false_or]
          rw [eq_comm, List.filter_eq_self]
          simp
      | cons s around =>
          have hPerm :
              List.Perm (thread ++ (s ++ around.flatten))
                (s ++ (thread ++ around.flatten)) :=
            List.perm_append_comm_assoc _ _ _
          have hTakes :=
            takes_number_iff ((hPerm.map _).nodup_iff.mp hNodup) n
          have hSpent :
              Spent ⟨.onTask, n, key⟩
                  ⟨thread, s :: around, held, next⟩ ↔
                s.getLast? = none ∧
                  ∀ p ∈ s ++ (thread ++ around.flatten),
                    p.number ≠ n :=
            and_congr_right
              (fun _ => forall_congr' (fun p => by
                simp only [all, List.flatten_cons,
                  hPerm.mem_iff]))
          refine
            Iff.trans ?_
              (hTakes.trans (or_congr Iff.rfl hSpent.symm))
          simp only [popTop, change, popOwn, mk.injEq,
            List.modifyHead_cons, List.map_cons, List.cons.injEq,
            and_true]
          rw [eq_comm, List.filter_eq_self, @eq_comm _ s.dropLast,
            @eq_comm _ around, map_filter_eq_self_iff]
          simp only [List.mem_append, decide_eq_true_eq]
          constructor
          · rintro ⟨hThread, hStack, hAround⟩
            refine ⟨hStack, ?_⟩
            rintro p (hp | hp)
            · exact hThread p hp
            · exact hAround p hp
          · rintro ⟨hStack, hOthers⟩
            exact
              ⟨fun p hp => hOthers p (Or.inl hp), hStack,
                fun p hp => hOthers p (Or.inr hp)⟩

end Tracked

end StorageRouting

------------------------------------------------------------
-- Orderly Programs
------------------------------------------------------------

namespace StorageRouting

/-
  Whenever a guard is dropped, its own key is on top of its
  kind of stack, or it has none left and there is nothing to
  take away.
-/
def GuardProgram.Orderly : GuardProgram → Tracked → Prop
| .done, _ => True
| .push key rest, T => rest.Orderly (T.push key)
| .pop rest, T => rest.Orderly T.pop
| .enter id key rest, T =>
    (∀ g, T.held.lookup id = some g →
      (T.push key).OnTop g ∨ (T.push key).Spent g) ∧
      rest.Orderly (T.enter Tracked.popTop id key)
| .drop id rest, T =>
    (∀ g, T.held.lookup id = some g → T.OnTop g ∨ T.Spent g) ∧
      rest.Orderly (T.drop Tracked.popTop id)
| .scope key body rest, T =>
    body.Orderly (T.openScope key) ∧
      rest.Orderly
        (body.left Tracked.popTop (T.openScope key)).closeScope

namespace Tracked

/- A guard that is dropped in order takes its own key away. -/
theorem drop_popOwn
    {T : Tracked}
    (h : T.Numbered)
    {id : String}
    (hOwn :
      ∀ g, T.held.lookup id = some g → T.OnTop g ∨ T.Spent g) :
    T.drop popOwn id = T.drop popTop id := by
  unfold drop
  cases hHeld : T.held.lookup id with
  | none => rfl
  | some g =>
      simp only [(popTop_eq_popOwn_iff h g).mpr (hOwn g hHeld)]

/- So does one that is replaced in order. -/
theorem enter_popOwn
    {T : Tracked}
    (h : T.Numbered)
    {id key : String}
    (hOwn :
      ∀ g, T.held.lookup id = some g →
        (T.push key).OnTop g ∨ (T.push key).Spent g) :
    T.enter popOwn id key = T.enter popTop id key := by
  have hHeld : (T.push key).held = T.held := T.held_change _ _
  have hDrop :
      (T.push key).drop popOwn id = (T.push key).drop popTop id :=
    drop_popOwn (h.push key) (by rw [hHeld]; exact hOwn)
  rw [enter, hDrop]
  rfl

end Tracked

/-
  A program that drops its guards in order comes to where it
  would come to if every guard took its own key away, and
  records the same.
-/
theorem GuardProgram.popOwn_of_orderly
    {β α : Type}
    (t : GuardProgram)
    {T : Tracked}
    (h : T.Numbered)
    (hOrderly : t.Orderly T) :
    t.left Tracked.popOwn T = t.left Tracked.popTop T ∧
      (t.lines Tracked.popOwn T : List (Entry β α)) =
        t.lines Tracked.popTop T := by
  induction t generalizing T with
  | done => exact ⟨rfl, rfl⟩
  | push key rest ih =>
      rcases ih (h.push key) hOrderly with ⟨hLeft, hLines⟩
      exact ⟨hLeft, congrArg (_ :: ·) hLines⟩
  | pop rest ih =>
      rcases ih (h.change_dropLast T.kind) hOrderly with
        ⟨hLeft, hLines⟩
      exact ⟨hLeft, congrArg (_ :: ·) hLines⟩
  | enter id key rest ih =>
      rcases ih (h.enter id key) hOrderly.2 with ⟨hLeft, hLines⟩
      simp only [left, lines, Tracked.enter_popOwn h hOrderly.1]
      exact ⟨hLeft, congrArg (_ :: ·) hLines⟩
  | drop id rest ih =>
      rcases ih (h.drop id) hOrderly.2 with ⟨hLeft, hLines⟩
      simp only [left, lines, Tracked.drop_popOwn h hOrderly.1]
      exact ⟨hLeft, congrArg (_ :: ·) hLines⟩
  | scope key body rest ihBody ihRest =>
      have hOpened := h.openScope key
      rcases ihBody hOpened hOrderly.1 with ⟨hInner, hWithin⟩
      have hClosed := (body.numbered_left hOpened).closeScope
      rcases ihRest hClosed hOrderly.2 with ⟨hLeft, hLines⟩
      simp only [left, lines, hInner, hWithin]
      exact
        ⟨hLeft, congrArg (fun l => _ ++ _ :: l) hLines⟩

end StorageRouting

------------------------------------------------------------
-- Programs of Guards Alone
------------------------------------------------------------

namespace StorageRouting

/- Nothing but guards is used. -/
def GuardProgram.OnlyGuards : GuardProgram → Prop
| .done => True
| .enter _ _ rest => rest.OnlyGuards
| .drop _ rest => rest.OnlyGuards
| _ => False

namespace Tracked

/-
  Above a base stands what the guards that are held pushed, in
  the order in which they were made.
-/
structure Stands
    (base : List Pushed)
    (T : Tracked) : Prop where
  current :
    T.current = base ++ (T.held.map (·.2.pushed)).reverse
  kind : ∀ h ∈ T.held, h.2.kind = T.kind
  names : (T.held.map Prod.fst).Nodup

/- Guards that are held have their key on the stack. -/
theorem Stands.mem_current
    {base : List Pushed}
    {T : Tracked}
    (h : T.Stands base)
    {id : String}
    {g : Guard}
    (hHeld : T.held.lookup id = some g) :
    (id, g) ∈ T.held ∧ g.pushed ∈ T.current := by
  have hMem : (id, g) ∈ T.held := by
    rcases List.lookup_eq_some_iff.mp hHeld with
      ⟨before, behind, hEq, _⟩
    rw [hEq]
    simp
  refine ⟨hMem, ?_⟩
  rw [h.current]
  refine List.mem_append_right _ (List.mem_reverse.mpr ?_)
  exact List.mem_map_of_mem (f := fun h => h.2.pushed) hMem

/- A change of the stack in force changes just that. -/
theorem current_change
    (T : Tracked)
    (f : List Pushed → List Pushed) :
    (T.change T.kind f).current = f T.current ∧
      (T.change T.kind f).kind = T.kind := by
  rcases T with ⟨thread, tasks, held, next⟩
  cases tasks <;> exact ⟨rfl, rfl⟩

/- The numbers on the stack in force are distinct. -/
theorem Numbered.nodup_current
    {T : Tracked}
    (h : T.Numbered) : (T.current.map Pushed.number).Nodup := by
  rcases T.change_cases T.kind with
    ⟨hNone, _⟩ | ⟨s, before, after, hSome, hAll, _⟩
  · rw [T.stackOf?_kind] at hNone
    cases hNone
  · rw [T.stackOf?_kind, Option.some.injEq] at hSome
    have hNodup := h.nodup
    rw [hAll, ← hSome] at hNodup
    refine hNodup.sublist (List.Sublist.map _ ?_)
    exact
      (List.sublist_append_right before T.current).trans
        (List.sublist_append_left _ after)

/- A guard whose key is on the stack is not spent. -/
theorem not_spent_of_mem
    {T : Tracked}
    {g : Guard}
    (h : g.pushed ∈ T.current) : ¬ T.Spent g := by
  intro hSpent
  exact
    hSpent.2 _ (mem_all_of_mem_stackOf? T.stackOf?_kind h) rfl

/- What is on top of the stack in force. -/
theorem onTop_iff_of_kind
    {T : Tracked}
    {g : Guard}
    (hKind : g.kind = T.kind) :
    T.OnTop g ↔
      T.current.getLast?.map Pushed.number = some g.number := by
  rw [OnTop, top?, hKind, T.stackOf?_kind, Option.bind_some]

/- A guard whose key is on top is the latest. -/
theorem Stands.exists_others
    {base : List Pushed}
    {T : Tracked}
    (h : T.Stands base)
    (hNumbered : T.Numbered)
    {id : String}
    {g : Guard}
    (hMem : (id, g) ∈ T.held)
    (hTop : T.OnTop g) :
    ∃ others, T.held = (id, g) :: others ∧
      T.current =
        base ++ (others.map (·.2.pushed)).reverse ++
          [g.pushed] := by
  rw [onTop_iff_of_kind (h.kind _ hMem)] at hTop
  have hCurrent := h.current
  have hDistinct := hNumbered.nodup_current
  cases hGuards : T.held with
  | nil =>
      rw [hGuards] at hMem
      cases hMem
  | cons latest others =>
      rw [hGuards, List.map_cons, List.reverse_cons,
        ← List.append_assoc] at hCurrent
      rw [hCurrent, List.getLast?_concat, Option.map_some,
        Option.some.injEq] at hTop
      rw [hCurrent, List.map_append, List.nodup_append]
        at hDistinct
      -- Two guards with one number are the same guard.
      have hLatest : latest = (id, g) := by
        rw [hGuards] at hMem
        rcases List.mem_cons.mp hMem with hSame | hOther
        · exact hSame.symm
        · have hBelow :
              g.pushed ∈
                base ++ (others.map (·.2.pushed)).reverse := by
            refine List.mem_append_right _ ?_
            refine List.mem_reverse.mpr ?_
            exact
              List.mem_map_of_mem (f := fun h => h.2.pushed)
                hOther
          have hApart :=
            hDistinct.2.2 _ (List.mem_map_of_mem hBelow) _
              (List.mem_singleton.mpr rfl)
          exact absurd hTop.symm hApart
      subst hLatest
      exact ⟨others, rfl, hCurrent⟩

/-
  A guard that is dropped in order is the latest, and leaves
  the others on their keys.
-/
theorem Stands.drop
    {base : List Pushed}
    {T : Tracked}
    (h : T.Stands base)
    (hNumbered : T.Numbered)
    {id : String}
    (hOwn :
      ∀ g, T.held.lookup id = some g → T.OnTop g ∨ T.Spent g) :
    (T.drop popTop id).Stands base := by
  cases hHeld : T.held.lookup id with
  | none =>
      have hDropped : T.drop popTop id = T := by
        simp only [Tracked.drop, hHeld]
      rw [hDropped]
      exact h
  | some g =>
      rcases h.mem_current hHeld with ⟨hMem, hOn⟩
      have hTop :=
        (hOwn g hHeld).resolve_right (not_spent_of_mem hOn)
      rcases h.exists_others hNumbered hMem hTop with
        ⟨others, hGuards, hCurrent⟩
      have hNames := h.names
      rw [hGuards, List.map_cons, List.nodup_cons] at hNames
      have hOthers :
          T.held.filter (fun h => h.1 ≠ id) = others := by
        rw [hGuards, List.filter_cons_of_neg (by simp),
          List.filter_eq_self]
        intro other hOther
        have hName : other.1 ∈ others.map Prod.fst :=
          List.mem_map_of_mem hOther
        rw [decide_eq_true_eq]
        rintro rfl
        exact hNames.1 hName
      have hKind : g.kind = T.kind := h.kind _ hMem
      have hDropped :
          T.drop popTop id =
            { T.change T.kind List.dropLast with
              held := others } := by
        simp only [Tracked.drop, hHeld, hOthers, popTop, hKind]
      rcases T.current_change List.dropLast with
        ⟨hPopped, hSameKind⟩
      rw [hDropped]
      refine ⟨?_, ?_, hNames.2⟩
      · refine hPopped.trans ?_
        rw [hCurrent, List.dropLast_concat]
      · intro other hOther
        refine Eq.trans (h.kind other ?_) hSameKind.symm
        rw [hGuards]
        exact List.mem_cons_of_mem _ hOther

/- A push changes the stack in force, and no guard. -/
theorem push_current
    (T : Tracked)
    (key : String) :
    (T.push key).current = T.current ++ [⟨T.next, key⟩] ∧
      (T.push key).kind = T.kind ∧
      (T.push key).held = T.held := by
  rcases T.current_change (· ++ [⟨T.next, key⟩]) with
    ⟨hCurrent, hKind⟩
  exact ⟨hCurrent, hKind, T.held_change _ _⟩

/-
  A guard that is made in order takes a free name: an older one
  would have to be on top of the key that is new.
-/
theorem Stands.lookup_eq_none
    {base : List Pushed}
    {T : Tracked}
    (h : T.Stands base)
    (hNumbered : T.Numbered)
    {id key : String}
    (hOwn :
      ∀ g, T.held.lookup id = some g →
        (T.push key).OnTop g ∨ (T.push key).Spent g) :
    T.held.lookup id = none := by
  cases hOlder : T.held.lookup id with
  | none => rfl
  | some g =>
      rcases T.push_current key with ⟨hCurrent, hKind, _⟩
      rcases h.mem_current hOlder with ⟨hMem, hOn⟩
      have hBelow : g.pushed ∈ (T.push key).current := by
        rw [hCurrent]
        exact List.mem_append_left _ hOn
      have hTop :=
        (onTop_iff_of_kind
          ((h.kind _ hMem).trans hKind.symm)).mp
          ((hOwn g hOlder).resolve_right
            (not_spent_of_mem hBelow))
      rw [hCurrent, List.getLast?_concat, Option.map_some,
        Option.some.injEq] at hTop
      have hOld :=
        hNumbered.lt_next _
          (mem_all_of_mem_stackOf? T.stackOf?_kind hOn)
      exact absurd hTop (Nat.ne_of_gt hOld)

/- A guard that is made in order stands above the others. -/
theorem Stands.enter
    {base : List Pushed}
    {T : Tracked}
    (h : T.Stands base)
    (hNumbered : T.Numbered)
    {id key : String}
    (hOwn :
      ∀ g, T.held.lookup id = some g →
        (T.push key).OnTop g ∨ (T.push key).Spent g) :
    (T.enter popTop id key).Stands base := by
  rcases T.push_current key with ⟨hCurrent, hKind, hHeld⟩
  have hFree := h.lookup_eq_none hNumbered hOwn
  have hEntered :
      T.enter popTop id key =
        { T.push key with
          held := (id, ⟨T.kind, T.next, key⟩) :: T.held } := by
    simp only [Tracked.enter, Tracked.drop, hHeld, hFree]
  rw [hEntered]
  refine ⟨?_, ?_, ?_⟩
  · refine hCurrent.trans ?_
    rw [h.current]
    simp [Guard.pushed]
  · intro other hOther
    refine Eq.trans ?_ hKind.symm
    rcases List.mem_cons.mp hOther with rfl | hOther
    · rfl
    · exact h.kind other hOther
  · refine List.nodup_cons.mpr ⟨?_, h.names⟩
    intro hName
    rcases List.mem_map.mp hName with ⟨other, hOther, rfl⟩
    have hOther := List.lookup_eq_none_iff.mp hFree other hOther
    simp at hOther

end Tracked

/-
  While a program uses guards alone, and in order, the stack is
  its base with the keys of the guards that are held.
-/
theorem GuardProgram.stands_left
    (t : GuardProgram)
    {base : List Pushed}
    {T : Tracked}
    (h : T.Numbered)
    (hStands : T.Stands base)
    (hOnly : t.OnlyGuards)
    (hOrderly : t.Orderly T) :
    (t.left Tracked.popTop T).Stands base := by
  induction t generalizing T with
  | done => exact hStands
  | enter id key rest ih =>
      exact
        ih (h.enter id key) (hStands.enter h hOrderly.1) hOnly
          hOrderly.2
  | drop id rest ih =>
      exact
        ih (h.drop id) (hStands.drop h hOrderly.1) hOnly
          hOrderly.2
  | push key rest ih => exact hOnly.elim
  | pop rest ih => exact hOnly.elim
  | scope key body rest ihBody ihRest => exact hOnly.elim

end StorageRouting

------------------------------------------------------------
-- The Law of Guards
------------------------------------------------------------

namespace StorageRouting

variable {β α ω : Type}

/- A program comes to its account when it is run. -/
theorem GuardProgram.run_met
    (outside : Outside β α ω)
    (t : GuardProgram)
    {T : Tracked}
    {m : Machine β α ω}
    (h : T.Shows m) :
    (t.left Tracked.popTop T).Met (t.lines Tracked.popTop T) m
      (t.program.run outside m) := by
  have hMet := t.poll_met outside false h
  rw [Program.run_of_ends (by rw [hMet.outcome]; simp)]
  exact hMet

/-
  What guards do to the stacks.  A program comes to the account
  in which every guard that is dropped takes the top of its kind
  of stack away, with all that it records on the way.  Where it
  comes to, a guard would take its own key away exactly when
  that is on top, or when it has none left and there is nothing
  to take.  A program that drops its guards in order comes to
  what it would come to if each took its own key away.  If it
  also uses nothing but guards, the stack is at its end the one
  at its start with the keys of the guards that are held, in the
  order in which they were made.
-/
theorem GuardProgram.dropped_guards_take_the_top
    (outside : Outside β α ω)
    (t : GuardProgram)
    {T : Tracked}
    {m : Machine β α ω}
    (hShows : T.Shows m)
    (hNumbered : T.Numbered) :
    let left := t.left Tracked.popTop T
    left.Met (t.lines Tracked.popTop T) m
        (t.program.run outside m) ∧
      (∀ g, left.popTop g = left.popOwn g ↔
        left.OnTop g ∨ left.Spent g) ∧
      (t.Orderly T →
        (t.left Tracked.popOwn T).Met
          (t.lines Tracked.popOwn T) m
          (t.program.run outside m)) ∧
      (t.Orderly T → t.OnlyGuards → T.held = [] →
        (t.program.run outside m).2.context.current =
          T.stack ++ (left.held.map (·.2.key)).reverse) := by
  intro left
  have hMet := t.run_met outside hShows
  refine ⟨hMet, ?_, ?_, ?_⟩
  · exact
      Tracked.popTop_eq_popOwn_iff (t.numbered_left hNumbered)
  · intro hOrderly
    rcases t.popOwn_of_orderly (β := β) (α := α) hNumbered
        hOrderly with
      ⟨hLeft, hLines⟩
    rw [hLeft, hLines]
    exact hMet
  · intro hOrderly hOnly hNone
    have hStart : T.Stands T.current :=
      ⟨by simp [hNone], by simp [hNone], by simp [hNone]⟩
    have hStands :=
      t.stands_left hNumbered hStart hOnly hOrderly
    rw [hMet.shows.context, Tracked.current_context,
      Tracked.stack, hStands.current]
    simp [Tracked.stack, Function.comp_def, Guard.pushed, left]

end StorageRouting

------------------------------------------------------------
-- Sample Guards
------------------------------------------------------------

namespace StorageRouting

namespace GuardProgram

/- The account of a thread with one key. -/
def sampleAccount : Tracked :=
  ⟨[⟨0, "root"⟩], [], [], 1⟩

/- A thread with one key. -/
def sampleThread : Machine Empty Empty Unit :=
  { Machine.start .standard () with context := ⟨["root"], none⟩ }

/- Two guards, the later of which is dropped. -/
def sampleGuards : GuardProgram :=
  .enter "outer" "a" (.enter "inner" "b" (.drop "inner" .done))

/- The sample drops its guards in order. -/
theorem orderly_sampleGuards :
    sampleGuards.Orderly sampleAccount := by
  refine ⟨?_, ?_, ?_, trivial⟩
  · intro g hNone
    cases hNone
  · intro g hNone
    cases hNone
  · intro g hInner
    cases hInner
    exact Or.inl rfl

/- The key of the guard that is held is left of the sample. -/
theorem sampleGuards_take_the_top :
    sampleAccount.Shows sampleThread ∧
      sampleAccount.Numbered ∧
      sampleGuards.Orderly sampleAccount ∧
      sampleGuards.OnlyGuards ∧
      (sampleGuards.program.run nofun sampleThread).1 =
        .finished ∧
      (sampleGuards.program.run nofun
          sampleThread).2.record.reverse =
        [.stack (.guard "outer" "a") (.keys ["root", "a"]),
          .stack (.guard "inner" "b")
            (.keys ["root", "a", "b"]),
          .stack (.drop "inner") (.keys ["root", "a"])] ∧
      (sampleGuards.program.run nofun
          sampleThread).2.context.current =
        ["root", "a"] := by
  have hShows : sampleAccount.Shows sampleThread := ⟨rfl, rfl⟩
  have hNumbered : sampleAccount.Numbered :=
    ⟨by decide, by decide⟩
  have hLaw :=
    dropped_guards_take_the_top nofun sampleGuards hShows
      hNumbered
  refine
    ⟨hShows, hNumbered, orderly_sampleGuards, trivial,
      hLaw.1.outcome, ?_, ?_⟩
  · rw [hLaw.1.record]
    rfl
  · exact hLaw.2.2.2 orderly_sampleGuards trivial rfl

/-
  It is not so that every guard takes its own key away: of two
  guards the earlier, dropped first, takes the key of the later
  one away.
-/
theorem not_all_guards_take_their_own :
    ¬ ∀ t : GuardProgram,
        (t.left Tracked.popOwn Tracked.fresh).Shows
          (t.program.run nofun
            (Machine.start .standard () :
              Machine Empty Empty Unit)).2 := by
  intro hOwn
  have hCrossed :=
    hOwn (.enter "g1" "a" (.enter "g2" "b" (.drop "g1" .done)))
  exact absurd hCrossed.context (by decide)

end GuardProgram

end StorageRouting
