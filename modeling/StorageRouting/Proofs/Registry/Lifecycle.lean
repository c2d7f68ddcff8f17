import Mathlib.Data.List.Nodup
import Mathlib.Data.List.Perm.Subperm
import StorageRouting.Proofs.Registry.Operation

/-
  The lifecycle of backends in a registry: a backend that was
  taken over is closed once, after it has left the registry,
  and no other backend is closed.

  Key definitions include:
    * `Custody`
    * `Custody.step`
    * `Custody.run`
    * `Custody.Conserved`
    * `Custody.Timely`

  Main statements:
    * `Custody.run_conserved`
    * `Custody.run_timely`
    * `Custody.closed_once_after_removal`
-/

------------------------------------------------------------
-- Custody
------------------------------------------------------------

namespace StorageRouting

/-
  A registry with the state behind its backends, and a record
  of what passed between them: the backends handed over, each
  with whether it was taken, and the backends closed, each with
  the registry as it stood.
-/
structure Custody (A σ : Type) where
  registry : Registry A
  state : σ
  handed : List (A × Bool)
  closes : List (Registry A × A)

namespace Custody

variable {A σ : Type}

/- A registry without backends, before anything was done. -/
def start
    (primary : String)
    (strict : Bool)
    (events : Option (List RegistryEvent))
    (s : σ) : Custody A σ :=
  { registry :=
      { primary, strict, adapters := Dictionary.empty, events }
    state := s, handed := [], closes := [] }

/- Note every backend that is closed. -/
def noting
    (close : Registry.Close A σ) :
    Registry.Close A (σ × List (Registry A × A)) :=
  fun r a x =>
    let (outcome, s) := close r a x.1
    (outcome, s, x.2 ++ [(r, a)])

/- Carry out an operation and record what passes. -/
def step
    (close : Registry.Close A σ)
    (c : Custody A σ) :
    RegistryOperation A σ → Custody A σ
| .register name a =>
    let (added, registry) := c.registry.register name a
    { c with registry, handed := c.handed ++ [(a, added)] }
| .unregister name =>
    let x :=
      c.registry.unregister (noting close) name
        (c.state, c.closes)
    { c with
      registry := x.registry
      state := x.state.1
      closes := x.state.2 }
| .populate chain configs =>
    let x := c.registry.populate chain configs c.state
    let built := Registry.built chain configs c.registry c.state
    { c with
      registry := x.registry
      state := x.state
      handed :=
        c.handed ++ (Registry.registerAll built c.registry).1 }
| .setStrict strict =>
    { c with registry := c.registry.setStrict strict }
| .shutdown =>
    let x :=
      c.registry.shutdown (noting close) (c.state, c.closes)
    { c with
      registry := x.registry
      state := x.state.1
      closes := x.state.2 }

/- Carry out operations one after the other. -/
def run
    (close : Registry.Close A σ) :
    List (RegistryOperation A σ) → Custody A σ → Custody A σ
| [], c => c
| op :: ops, c => run close ops (c.step close op)

/- The backends that were handed over, taken or not. -/
def offered (c : Custody A σ) : List A :=
  c.handed.map Prod.fst

/- The backends that were closed, in order. -/
def closed (c : Custody A σ) : List A :=
  c.closes.map Prod.snd

end Custody

end StorageRouting

------------------------------------------------------------
-- The Record Changes Nothing
------------------------------------------------------------

namespace StorageRouting

namespace Custody

variable {A σ : Type}

/- Noting what is closed leaves outcomes and states alone. -/
theorem closeAll_noting
    (close : Registry.Close A σ)
    (r : Registry A)
    (entries : List (String × A))
    (s : σ)
    (log : List (Registry A × A)) :
    Registry.closeAll (noting close) r entries (s, log) =
      ((Registry.closeAll close r entries s).1,
        (Registry.closeAll close r entries s).2,
        log ++ entries.map (fun e => (r, e.2))) := by
  induction entries generalizing s log with
  | nil => simp [Registry.closeAll]
  | cons e rest ih =>
      rcases e with ⟨name, a⟩
      simp [Registry.closeAll, noting, ih]

/- What a recorded operation does to registry and state. -/
theorem step_eq_apply
    (close : Registry.Close A σ)
    (c : Custody A σ)
    (op : RegistryOperation A σ) :
    ((c.step close op).registry, (c.step close op).state) =
      op.apply close c.registry c.state := by
  cases op with
  | register name a => rfl
  | unregister name =>
      simp only [step, RegistryOperation.apply,
        Registry.unregister]
      split
      · rfl
      · split <;> rfl
  | populate chain configs => rfl
  | setStrict strict => rfl
  | shutdown =>
      simp only [step, RegistryOperation.apply,
        Registry.shutdown, closeAll_noting]

/- What a recorded run does to registry and state. -/
theorem run_eq_run
    (close : Registry.Close A σ)
    (ops : List (RegistryOperation A σ))
    (c : Custody A σ) :
    ((c.run close ops).registry, (c.run close ops).state) =
      RegistryOperation.run close ops (c.registry, c.state) := by
  induction ops generalizing c with
  | nil => rfl
  | cons op ops ih =>
      rw [run, RegistryOperation.run, ih, step_eq_apply]

end Custody

end StorageRouting

------------------------------------------------------------
-- What a Step Can Do
------------------------------------------------------------

namespace StorageRouting

namespace Custody

variable {A σ : Type}

/- The backends that were taken when they were handed over. -/
def takenOf (answers : List (A × Bool)) : List A :=
  (answers.filter Prod.snd).map Prod.fst

/- The backends that the registry took over. -/
def taken (c : Custody A σ) : List A :=
  takenOf c.handed

/- The backends of moments that share one registry. -/
theorem map_snd_moments
    (r : Registry A)
    (removed : List A) :
    (removed.map (fun a => (r, a))).map Prod.snd = removed := by
  simp [Function.comp_def]

/- What was taken of two records in a row. -/
theorem takenOf_append
    (answers more : List (A × Bool)) :
    takenOf (answers ++ more) =
      takenOf answers ++ takenOf more := by
  simp [takenOf]

/- Registrations add the backends that they take. -/
theorem registerAll_values_perm
    (named : List (String × A))
    (r : Registry A) :
    (Registry.registerAll named r).2.adapters.values.Perm
      (takenOf (Registry.registerAll named r).1 ++
        r.adapters.values) := by
  induction named generalizing r with
  | nil => exact List.Perm.refl _
  | cons e rest ih =>
      rcases e with ⟨name, a⟩
      rcases r.register_cases name a with
        ⟨_, hEq⟩ | ⟨hFree, hEq⟩
      · simpa [Registry.registerAll, hEq, takenOf] using ih r
      · have hRest := ih (r.register name a).2
        have hAdded :
            (r.register name a).2.adapters.values.Perm
              (a :: r.adapters.values) := by
          rw [hEq]
          exact Dictionary.values_insert_perm hFree
        have hBoth :=
          hRest.trans
            ((hAdded.append_left _).trans List.perm_middle)
        simpa [Registry.registerAll, hEq, takenOf] using hBoth

/-
  A step takes backends over and closes none, or removes
  backends and then closes exactly those, in a registry that
  has the backends that are left.
-/
theorem step_cases
    (close : Registry.Close A σ)
    (c : Custody A σ)
    (op : RegistryOperation A σ) :
    (∃ answers,
        (c.step close op).handed = c.handed ++ answers ∧
        (c.step close op).closes = c.closes ∧
        (c.step close op).registry.adapters.values.Perm
          (takenOf answers ++ c.registry.adapters.values)) ∨
      (∃ r removed,
        (c.step close op).handed = c.handed ∧
        (c.step close op).closes =
          c.closes ++ removed.map (fun a => (r, a)) ∧
        (c.step close op).registry.adapters = r.adapters ∧
        c.registry.adapters.values.Perm
          (removed ++ r.adapters.values)) := by
  cases op with
  | register name a =>
      left
      have hPerm :=
        registerAll_values_perm [(name, a)] c.registry
      exact ⟨[(a, (c.registry.register name a).1)], rfl, rfl, hPerm⟩
  | unregister name =>
      rcases c.registry.unregister_cases (noting close) name
          (c.state, c.closes) with
        ⟨e, _, hEq⟩ | ⟨_, _, hEq⟩ | ⟨a, _, hFound, hEq⟩
      · left
        refine ⟨[], ?_, ?_, ?_⟩ <;> simp [step, hEq, takenOf]
      · left
        refine ⟨[], ?_, ?_, ?_⟩ <;> simp [step, hEq, takenOf]
      · right
        refine ⟨c.registry.without name, [a], rfl, ?_, ?_, ?_⟩
        · simp [step, hEq, noting]
        · simp [step, hEq, Registry.publish]
        · exact Dictionary.values_erase_perm hFound
  | populate chain configs =>
      left
      refine ⟨_, rfl, rfl, ?_⟩
      simp only [step, Registry.populate_registry]
      exact registerAll_values_perm _ _
  | setStrict strict =>
      left
      refine ⟨[], ?_, rfl, List.Perm.refl _⟩
      simp [step]
  | shutdown =>
      right
      refine
        ⟨{ c.registry with adapters := Dictionary.empty },
          c.registry.adapters.values, rfl, ?_, rfl, ?_⟩
      · simp [step, Registry.shutdown, closeAll_noting,
          Dictionary.values]
      · simp [Dictionary.values, Dictionary.empty]

end Custody

end StorageRouting

------------------------------------------------------------
-- Conservation
------------------------------------------------------------

namespace StorageRouting

namespace Custody

variable {A σ : Type}

/-
  Every backend that was taken over is in the registry or was
  closed, counted as often as it was taken.
-/
def Conserved (c : Custody A σ) : Prop :=
  (c.registry.adapters.values ++ c.closed).Perm c.taken

/- A step neither loses backends nor closes them twice. -/
theorem step_conserved
    (close : Registry.Close A σ)
    {c : Custody A σ}
    (op : RegistryOperation A σ)
    (h : c.Conserved) : (c.step close op).Conserved := by
  classical
  unfold Conserved at h ⊢
  rw [List.perm_iff_count] at h ⊢
  intro a
  have hBefore := h a
  rcases c.step_cases close op with
    ⟨answers, hHanded, hCloses, hValues⟩ |
      ⟨r, removed, hHanded, hCloses, hAdapters, hValues⟩
  · have hCount := hValues.count_eq a
    simp only [closed, taken, hHanded, hCloses, takenOf_append,
      List.count_append] at hBefore hCount ⊢
    omega
  · have hCount := hValues.count_eq a
    simp only [closed, taken, hHanded, hCloses, hAdapters,
      List.map_append, map_snd_moments, List.count_append]
      at hBefore hCount ⊢
    omega

/- A run neither loses backends nor closes them twice. -/
theorem run_conserved
    (close : Registry.Close A σ)
    (ops : List (RegistryOperation A σ))
    {c : Custody A σ}
    (h : c.Conserved) : (c.run close ops).Conserved := by
  induction ops generalizing c with
  | nil => exact h
  | cons op ops ih => exact ih (step_conserved close op h)

end Custody

end StorageRouting

------------------------------------------------------------
-- Removal before Closing
------------------------------------------------------------

namespace StorageRouting

namespace Custody

variable {A σ : Type}

/-
  Whenever a backend was closed, it and those closed before it
  were no longer counted in the registry as it then stood.
-/
def Timely (c : Custody A σ) : Prop :=
  ∀ before x, before ++ [x] <+: c.closes →
    (x.1.adapters.values ++ (before ++ [x]).map Prod.snd).Subperm
      c.taken

/- A moment of a longer record is an old or a new one. -/
theorem moment_cases
    {r : Registry A}
    {log before : List (Registry A × A)}
    {removed : List A}
    {x : Registry A × A}
    (h :
      before ++ [x] <+: log ++ removed.map (fun a => (r, a))) :
    before ++ [x] <+: log ∨
      (x.1 = r ∧
        (before ++ [x]).map Prod.snd <+:
          log.map Prod.snd ++ removed) := by
  rcases h with ⟨after, hSplit⟩
  rcases List.append_eq_append_iff.mp hSplit with
    ⟨more, hLog, _⟩ | ⟨more, hBefore, hMore⟩
  · exact Or.inl ⟨more, hLog.symm⟩
  · rcases List.eq_nil_or_concat more with rfl | ⟨init, last, rfl⟩
    · left
      simp only [List.append_nil] at hBefore
      exact ⟨[], by simp [hBefore]⟩
    · right
      have hLast : x = last := by
        rw [List.concat_eq_append, ← List.append_assoc]
          at hBefore
        exact
          List.singleton_inj.mp (List.append_inj' hBefore rfl).2
      have hMem : x ∈ removed.map (fun a => (r, a)) := by
        rw [hMore, hLast]
        simp
      constructor
      · rcases List.mem_map.mp hMem with ⟨a, _, rfl⟩
        rfl
      · rw [hBefore, List.map_append]
        apply (List.prefix_append_right_inj _).mpr
        refine ⟨after.map Prod.snd, ?_⟩
        rw [← List.map_append, ← hMore, map_snd_moments]

/- A step removes backends before it closes them. -/
theorem step_timely
    (close : Registry.Close A σ)
    {c : Custody A σ}
    (op : RegistryOperation A σ)
    (hConserved : c.Conserved)
    (h : c.Timely) : (c.step close op).Timely := by
  classical
  intro before x hMoment
  rw [List.subperm_iff_count]
  intro a
  rcases c.step_cases close op with
    ⟨answers, hHanded, hCloses, _⟩ |
      ⟨r, removed, hHanded, hCloses, _, hValues⟩
  · rw [hCloses] at hMoment
    have hOld := List.subperm_iff_count.mp (h before x hMoment) a
    simp only [taken, hHanded, takenOf_append,
      List.count_append] at hOld ⊢
    omega
  · rw [hCloses] at hMoment
    have hTaken : (c.step close op).taken = c.taken := by
      rw [taken, taken, hHanded]
    rw [hTaken]
    rcases moment_cases hMoment with hOld | ⟨hRegistry, hPrefix⟩
    · exact List.subperm_iff_count.mp (h before x hOld) a
    · have hAll := hConserved.count_eq a
      have hSplit := hValues.count_eq a
      have hClosed := hPrefix.sublist.count_le a
      simp only [closed, hRegistry, List.count_append]
        at hAll hSplit hClosed ⊢
      omega

/- A run removes backends before it closes them. -/
theorem run_timely
    (close : Registry.Close A σ)
    (ops : List (RegistryOperation A σ))
    {c : Custody A σ}
    (hConserved : c.Conserved)
    (h : c.Timely) : (c.run close ops).Timely := by
  induction ops generalizing c with
  | nil => exact h
  | cons op ops ih =>
      exact
        ih (step_conserved close op hConserved)
          (step_timely close op hConserved h)

end Custody

end StorageRouting

------------------------------------------------------------
-- Backends That Are Handed Over Once
------------------------------------------------------------

namespace StorageRouting

namespace Custody

variable {A σ : Type}

/- What was ever handed over stays in the record. -/
theorem handed_prefix_step
    (close : Registry.Close A σ)
    (c : Custody A σ)
    (op : RegistryOperation A σ) :
    c.handed <+: (c.step close op).handed := by
  rcases c.step_cases close op with
    ⟨answers, hHanded, _⟩ | ⟨r, removed, hHanded, _⟩
  · exact ⟨answers, hHanded.symm⟩
  · exact ⟨[], by simp [hHanded]⟩

/- What was handed over in the beginning of a run stays. -/
theorem handed_prefix_run
    (close : Registry.Close A σ)
    {earlier ops : List (RegistryOperation A σ)}
    (hEarlier : earlier <+: ops)
    (c : Custody A σ) :
    (c.run close earlier).handed <+: (c.run close ops).handed := by
  induction earlier generalizing ops c with
  | nil =>
      clear hEarlier
      induction ops generalizing c with
      | nil => exact List.prefix_refl _
      | cons op ops ih =>
          exact (handed_prefix_step close c op).trans (ih _)
  | cons op earlier ih =>
      rcases hEarlier with ⟨later, rfl⟩
      exact ih (List.prefix_append earlier later) _

/- A backend was taken when one of its handings was. -/
theorem mem_taken_iff
    {c : Custody A σ}
    {a : A} : a ∈ c.taken ↔ (a, true) ∈ c.handed := by
  simp [taken, takenOf]

/- A backend of the registry was taken over. -/
theorem Conserved.mem_taken
    {c : Custody A σ}
    (h : c.Conserved)
    {a : A}
    (ha : a ∈ c.registry.adapters.values) : a ∈ c.taken :=
  h.subset (List.mem_append_left _ ha)

/- Backends that are handed over once are taken at most once. -/
theorem taken_nodup
    {c : Custody A σ}
    (h : c.offered.Nodup) : c.taken.Nodup :=
  h.sublist (List.filter_sublist.map Prod.fst)

/- A refused backend that is handed over once is not taken. -/
theorem not_mem_taken_of_refused
    {c : Custody A σ}
    (h : c.offered.Nodup)
    {a : A}
    (ha : (a, false) ∈ c.handed) : a ∉ c.taken := by
  intro hTaken
  have hSame :=
    List.inj_on_of_nodup_map h ha (mem_taken_iff.mp hTaken) rfl
  simp at hSame

/- In a timely record nothing that is left was closed so far. -/
theorem Timely.not_mem_of_offers
    {c : Custody A σ}
    (hNodup : c.taken.Nodup)
    (h : c.Timely)
    {before : List (Registry A × A)}
    {r : Registry A}
    {a b : A}
    (hMoment : before ++ [(r, a)] <+: c.closes)
    (hOffers : r.Offers b) :
    b ∉ (before ++ [(r, a)]).map Prod.snd := by
  rcases h before (r, a) hMoment with ⟨both, hPerm, hSublist⟩
  have hDisjoint :=
    List.disjoint_of_nodup_append
      (hPerm.nodup_iff.mp (hNodup.sublist hSublist))
  exact fun hClosed =>
    hDisjoint (Registry.mem_values_of_offers hOffers) hClosed

variable [DecidableEq A]

/- How often a backend is there or was closed, taken together. -/
theorem Conserved.count_add
    {c : Custody A σ}
    (h : c.Conserved)
    (a : A) :
    c.registry.adapters.values.count a + c.closed.count a =
      c.taken.count a := by
  rw [← List.count_append]
  exact h.count_eq a

/-
  Let every backend be handed over at most once in a run of a
  registry.  Then those in the registry were not closed; those
  that were in it and left were closed once, whatever came of
  it; those that were refused were not closed.  At each moment
  at which a backend is closed, and in the end, nothing that
  can be had from the registry was closed before or is being
  closed.  The record leaves registry and state as they are
  without it.
-/
theorem closed_once_after_removal
    (close : Registry.Close A σ)
    (primary : String)
    (strict : Bool)
    (events : Option (List RegistryEvent))
    (s : σ)
    (ops : List (RegistryOperation A σ))
    (hOnce :
      ((start primary strict events s).run close
        ops).offered.Nodup) :
    let first : Custody A σ := start primary strict events s
    let last := first.run close ops
    (last.registry, last.state) =
        RegistryOperation.run close ops
          (first.registry, first.state) ∧
      (∀ a ∈ last.registry.adapters.values,
        last.closed.count a = 0) ∧
      (∀ earlier, earlier <+: ops →
        ∀ a ∈ (first.run close earlier).registry.adapters.values,
          a ∉ last.registry.adapters.values →
            last.closed.count a = 1) ∧
      (∀ a, (a, false) ∈ last.handed →
        last.closed.count a = 0) ∧
      (∀ before r a, before ++ [(r, a)] <+: last.closes →
        ∀ b, r.Offers b →
          b ∉ (before ++ [(r, a)]).map Prod.snd) ∧
      ∀ b, last.registry.Offers b → b ∉ last.closed := by
  intro first last
  have hStart : first.Conserved := List.Perm.refl _
  have hConserved : last.Conserved :=
    run_conserved close ops hStart
  have hTimely : last.Timely := by
    apply run_timely close ops hStart
    intro before x hMoment
    simp [first, start] at hMoment
  have hNodup : last.taken.Nodup := taken_nodup hOnce
  have hLeft :
      ∀ a ∈ last.registry.adapters.values,
        last.closed.count a = 0 := by
    intro a ha
    have hCount := hConserved.count_add a
    have hThere := List.count_pos_iff.mpr ha
    have hAtMost := List.nodup_iff_count_le_one.mp hNodup a
    omega
  refine ⟨run_eq_run close ops first, hLeft, ?_, ?_, ?_, ?_⟩
  · intro earlier hEarlier a ha hGone
    have hThen : a ∈ (first.run close earlier).taken :=
      (run_conserved close earlier hStart).mem_taken ha
    have hHanded : (a, true) ∈ last.handed :=
      (handed_prefix_run close hEarlier first).subset
        (mem_taken_iff.mp hThen)
    have hTaken :=
      List.count_eq_one_of_mem hNodup (mem_taken_iff.mpr hHanded)
    have hCount := hConserved.count_add a
    have hNot := List.count_eq_zero_of_not_mem hGone
    omega
  · intro a ha
    have hNot : last.taken.count a = 0 :=
      List.count_eq_zero_of_not_mem
        (not_mem_taken_of_refused hOnce ha)
    have hCount := hConserved.count_add a
    omega
  · intro before r a hMoment b hOffers
    exact hTimely.not_mem_of_offers hNodup hMoment hOffers
  · intro b hOffers
    exact
      List.count_eq_zero.mp
        (hLeft b (Registry.mem_values_of_offers hOffers))

end Custody

end StorageRouting

------------------------------------------------------------
-- A Run with Refusals and Failures
------------------------------------------------------------

namespace StorageRouting

namespace Custody

/- Backends that are numbers; the odd ones fail to close. -/
def oddStubborn : Registry.Close Nat Nat :=
  fun _ a s =>
    if a % 2 = 1 then (.error (.general "stuck"), s)
    else (.ok (), s)

/- Builds backends with ascending numbers. -/
def numbering : ConverterChain Nat Nat where
  converters :=
    [{ name := "numbering"
       convert := fun _ _ s => (.ok (some s), s + 1) }]
  credentials :=
    { default := Decryptor.plain
      named := Dictionary.empty
      vault := ⟨fun _ => Vault.empty, fun _ s => s⟩ }

/- A run in which backends are refused, stay, leave and fail. -/
def mixedRun : List (RegistryOperation Nat Nat) :=
  [.register "p" 1, .register "p" 2,
    .populate numbering
      [{ BackendConfig.blank with name := "b" },
        { BackendConfig.blank with name := "b" }],
    .unregister "p", .setStrict true, .register "p" 3,
    .unregister "p", .shutdown, .register "p" 4]

/-
  In the mixed run the backend 1 is closed once although it
  fails, 4 stays and is not closed, and 2 was refused.
-/
theorem closed_once_in_mixedRun :
    let first : Custody Nat Nat := start "p" false none 10
    let last := first.run oddStubborn mixedRun
    last.offered = [1, 2, 10, 11, 3, 4] ∧
      last.offered.Nodup ∧
      last.closed.count 1 = 1 ∧
      last.closed.count 4 = 0 ∧
      last.closed.count 2 = 0 := by
  have hOnce :
      ((start "p" false none 10).run oddStubborn
        mixedRun).offered.Nodup := by
    decide
  have hRun :=
    closed_once_after_removal oddStubborn "p" false none 10
      mixedRun hOnce
  rcases hRun with ⟨_, hStays, hLeaves, hRefused, _, _⟩
  refine ⟨by decide, hOnce, ?_, ?_, ?_⟩
  · exact
      hLeaves (mixedRun.take 1) (List.take_prefix 1 mixedRun) 1
        (by decide) (by decide)
  · exact hStays 4 (by decide)
  · exact hRefused 2 (by decide)

end Custody

end StorageRouting
