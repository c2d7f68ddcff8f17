import Mathlib.Data.List.Nodup
import StorageRouting.Proofs.Registry.Operation

/-
  The shutdown of a registry: whatever fails, every backend is
  closed once, when the registry is empty already, and the
  summary tells of each closing under the name of its backend.

  Key definitions include:
    * `Registry.Closing`
    * `Registry.noted`
    * `ShutdownSummary.of`
    * `ShutdownSummary.TellsOf`

  Main statements:
    * `Registry.closeAll_noted`
    * `ShutdownSummary.tellsOf_of`
    * `Registry.shutdown_closes_each_once`
-/

------------------------------------------------------------
-- Closings
------------------------------------------------------------

namespace StorageRouting

namespace Registry

variable {A σ : Type}

/-
  A backend that was closed: the registry as it stood, and what
  came of it.
-/
structure Closing (A : Type) where
  registry : Registry A
  adapter : A
  outcome : Except Error Unit

/- Close backends, and note every closing. -/
def noted
    (close : Close A σ) : Close A (σ × List (Closing A)) :=
  fun r a x =>
    let (outcome, s) := close r a x.1
    (outcome, s, x.2 ++ [⟨r, a, outcome⟩])

end Registry

namespace ShutdownSummary

variable {A : Type}

/- The name of a closing that succeeded. -/
def closedName?
    (named : String × Registry.Closing A) : Option String :=
  match named.2.outcome with
  | .ok _ => some named.1
  | .error _ => none

/- The name of a closing that failed, and its error. -/
def failure?
    (named : String × Registry.Closing A) :
    Option (String × Error) :=
  match named.2.outcome with
  | .ok _ => none
  | .error e => some (named.1, e)

/- The summary of closings under their names. -/
def of
    (named : List (String × Registry.Closing A)) :
    ShutdownSummary where
  closed := named.filterMap closedName?
  failed := named.filterMap failure?

/- One more closing in front. -/
theorem add_of
    (name : String)
    (c : Registry.Closing A)
    (named : List (String × Registry.Closing A)) :
    (of named).add name c.outcome = of ((name, c) :: named) := by
  rcases c with ⟨r, a, outcome⟩
  cases outcome <;> rfl

end ShutdownSummary

namespace Registry

variable {A σ : Type}

/-
  Backends are closed one after the other in the registry as it
  is, each of them once.  The summary tells of these closings,
  and noting them changes nothing.
-/
theorem closeAll_noted
    (close : Close A σ)
    (r : Registry A)
    (entries : List (String × A))
    (s : σ)
    (log : List (Closing A)) :
    ∃ closings : List (Closing A),
      closeAll (noted close) r entries (s, log) =
        ((closeAll close r entries s).1,
          (closeAll close r entries s).2, log ++ closings) ∧
      closings.map Closing.adapter = entries.map Prod.snd ∧
      (∀ c ∈ closings, c.registry = r) ∧
      (closeAll close r entries s).1 =
        .of ((entries.map Prod.fst).zip closings) := by
  induction entries generalizing s log with
  | nil => exact ⟨[], by simp [closeAll], rfl, nofun, rfl⟩
  | cons e rest ih =>
      rcases e with ⟨name, a⟩
      rcases hClose : close r a s with ⟨outcome, s'⟩
      let c : Closing A := ⟨r, a, outcome⟩
      rcases ih s' (log ++ [c]) with
        ⟨closings, hAll, hAdapters, hRegistry, hSummary⟩
      refine ⟨c :: closings, ?_, ?_, ?_, ?_⟩
      · simp [closeAll, noted, hClose, hAll, c]
      · simp [hAdapters, c]
      · simpa [c] using hRegistry
      · rw [List.map_cons, List.zip_cons_cons,
          ← ShutdownSummary.add_of, ← hSummary]
        simp [closeAll, hClose, c]

end Registry

end StorageRouting

------------------------------------------------------------
-- Summaries
------------------------------------------------------------

namespace StorageRouting

namespace ShutdownSummary

variable {A : Type} {named : List (String × Registry.Closing A)}

/-
  A summary that tells of closings: which of them succeeded, and
  which failed with which error, each by name in order.
-/
structure TellsOf
    (named : List (String × Registry.Closing A))
    (summary : ShutdownSummary) : Prop where
  closed_ascending : summary.closed.Pairwise (· < ·)
  failed_ascending : (summary.failed.map Prod.fst).Pairwise (· < ·)
  disjoint :
    summary.closed.Disjoint (summary.failed.map Prod.fst)
  name_iff :
    ∀ name, name ∈ named.map Prod.fst ↔
      name ∈ summary.closed ∨ name ∈ summary.failed.map Prod.fst
  closed_iff :
    ∀ name, name ∈ summary.closed ↔
      ∃ c, (name, c) ∈ named ∧ c.outcome = .ok ()
  failed_iff :
    ∀ name e, (name, e) ∈ summary.failed ↔
      ∃ c, (name, c) ∈ named ∧ c.outcome = .error e
  isClean_iff :
    summary.isClean = true ↔
      ∀ name c, (name, c) ∈ named → c.outcome = .ok ()

theorem closedName?_eq_some_iff
    {x : String × Registry.Closing A}
    {name : String} :
    closedName? x = some name ↔
      x.1 = name ∧ x.2.outcome = .ok () := by
  rcases x with ⟨other, r, a, outcome⟩
  cases outcome <;> simp [closedName?]

theorem failure?_eq_some_iff
    {x : String × Registry.Closing A}
    {failure : String × Error} :
    failure? x = some failure ↔
      x.1 = failure.1 ∧ x.2.outcome = .error failure.2 := by
  rcases x with ⟨other, r, a, outcome⟩
  cases outcome <;> simp [failure?, Prod.ext_iff]

theorem mem_closed_iff
    {name : String} :
    name ∈ (of named).closed ↔
      ∃ c, (name, c) ∈ named ∧ c.outcome = .ok () := by
  simp only [of, List.mem_filterMap, closedName?_eq_some_iff]
  constructor
  · rintro ⟨⟨_, c⟩, hMem, rfl, hOutcome⟩
    exact ⟨c, hMem, hOutcome⟩
  · rintro ⟨c, hMem, hOutcome⟩
    exact ⟨(name, c), hMem, rfl, hOutcome⟩

theorem mem_failed_iff
    {failure : String × Error} :
    failure ∈ (of named).failed ↔
      ∃ c, (failure.1, c) ∈ named ∧
        c.outcome = .error failure.2 := by
  simp only [of, List.mem_filterMap, failure?_eq_some_iff]
  constructor
  · rintro ⟨⟨_, c⟩, hMem, rfl, hOutcome⟩
    exact ⟨c, hMem, hOutcome⟩
  · rintro ⟨c, hMem, hOutcome⟩
    exact ⟨(failure.1, c), hMem, rfl, hOutcome⟩

theorem mem_failedNames_iff
    {name : String} :
    name ∈ (of named).failed.map Prod.fst ↔
      ∃ c e, (name, c) ∈ named ∧ c.outcome = .error e := by
  rw [List.mem_map]
  constructor
  · rintro ⟨⟨_, e⟩, hMem, rfl⟩
    rcases mem_failed_iff.mp hMem with ⟨c, hNamed, hOutcome⟩
    exact ⟨c, e, hNamed, hOutcome⟩
  · rintro ⟨c, e, hNamed, hOutcome⟩
    exact ⟨(name, e), mem_failed_iff.mpr ⟨c, hNamed, hOutcome⟩, rfl⟩

/- Names that some closings have are names of all of them. -/
theorem closed_sublist
    (named : List (String × Registry.Closing A)) :
    (of named).closed.Sublist (named.map Prod.fst) := by
  induction named with
  | nil => exact List.Sublist.slnil
  | cons x rest ih =>
      rw [← add_of x.1 x.2 rest, List.map_cons]
      cases x.2.outcome with
      | ok u => exact ih.cons_cons x.1
      | error e => exact ih.cons x.1

theorem failed_sublist
    (named : List (String × Registry.Closing A)) :
    ((of named).failed.map Prod.fst).Sublist
      (named.map Prod.fst) := by
  induction named with
  | nil => exact List.Sublist.slnil
  | cons x rest ih =>
      rw [← add_of x.1 x.2 rest, List.map_cons]
      cases x.2.outcome with
      | ok u => exact ih.cons x.1
      | error e => exact ih.cons_cons x.1

/- The summary of closings in order of name tells of them. -/
theorem tellsOf_of
    (h : (named.map Prod.fst).Pairwise (· < ·)) :
    TellsOf named (of named) where
  closed_ascending := h.sublist (closed_sublist named)
  failed_ascending := h.sublist (failed_sublist named)
  disjoint := by
    intro name hClosed hFailed
    rcases mem_closed_iff.mp hClosed with ⟨c, hNamed, hOk⟩
    rcases mem_failedNames_iff.mp hFailed with
      ⟨d, e, hNamed', hError⟩
    have hNodup : (named.map Prod.fst).Nodup :=
      h.imp fun hLess => String.ne_of_lt hLess
    have hSame :=
      List.inj_on_of_nodup_map hNodup hNamed hNamed' rfl
    rw [Prod.mk.injEq] at hSame
    rw [hSame.2, hError] at hOk
    cases hOk
  name_iff name := by
    rw [mem_closed_iff, mem_failedNames_iff, List.mem_map]
    constructor
    · rintro ⟨⟨_, c⟩, hNamed, rfl⟩
      cases hOutcome : c.outcome with
      | ok u => exact .inl ⟨c, hNamed, hOutcome⟩
      | error e => exact .inr ⟨c, e, hNamed, hOutcome⟩
    · rintro (⟨c, hNamed, _⟩ | ⟨c, _, hNamed, _⟩)
      · exact ⟨(name, c), hNamed, rfl⟩
      · exact ⟨(name, c), hNamed, rfl⟩
  closed_iff _ := mem_closed_iff
  failed_iff _ _ := mem_failed_iff
  isClean_iff := by
    rw [isClean, List.isEmpty_iff, List.eq_nil_iff_forall_not_mem]
    constructor
    · intro hNone name c hNamed
      cases hOutcome : c.outcome with
      | ok u => rfl
      | error e =>
          exact
            absurd (mem_failed_iff.mpr ⟨c, hNamed, hOutcome⟩)
              (hNone (name, e))
    · rintro hAll ⟨name, e⟩ hFailed
      rcases mem_failed_iff.mp hFailed with ⟨c, hNamed, hError⟩
      rw [hAll name c hNamed] at hError
      cases hError

end ShutdownSummary

end StorageRouting

------------------------------------------------------------
-- Shutdown
------------------------------------------------------------

namespace StorageRouting

namespace Registry

variable {A σ : Type}

/- An empty registry has nothing to close. -/
theorem shutdown_of_empty
    (close : Close A σ)
    {r : Registry A}
    (h : r.adapters = Dictionary.empty)
    (s : σ) : r.shutdown close s = ⟨⟨[], []⟩, r, s⟩ := by
  have hEmptied : { r with adapters := Dictionary.empty } = r := by
    rw [← h]
  simp only [shutdown, hEmptied]
  rw [h]
  rfl

/- An empty registry takes a backend under any name. -/
theorem register_of_empty
    {r : Registry A}
    (h : r.adapters = Dictionary.empty)
    (name : String)
    (a : A) :
    (r.register name a).1 = true ∧
      (r.register name a).2.get? name = some a := by
  have hFree : r.get? name = none := by
    rw [get?, h, Dictionary.get?_empty]
  rcases r.register_cases name a with ⟨⟨b, hTaken⟩, _⟩ | ⟨_, hEq⟩
  · rw [hFree] at hTaken
    cases hTaken
  · refine ⟨by rw [hEq], ?_⟩
    rw [get?_register, hFree]
    simp

/-
  A shutdown leaves a registry empty.  Whatever fails, it closes
  every backend once, in ascending order of the names, and in
  each closing the registry is empty already.  The summary tells
  which names were closed, and which failed with the error of
  their own backend.  A second shutdown closes nothing, and every
  name is free again.  Noting the closings changes nothing.
-/
theorem shutdown_closes_each_once
    (close : Close A σ)
    (r : Registry A)
    (s : σ) :
    let plain := r.shutdown close s
    let observed := r.shutdown (noted close) (s, [])
    let closings := observed.state.2
    let named := r.backends.zip closings
    observed.answer = plain.answer ∧
      observed.registry = plain.registry ∧
      observed.state.1 = plain.state ∧
      plain.registry = { r with adapters := Dictionary.empty } ∧
      r.backends.Pairwise (· < ·) ∧
      named.map (fun x => (x.1, x.2.adapter)) =
        r.adapters.entries ∧
      closings.map Closing.adapter = r.adapters.values ∧
      (∀ c ∈ closings, c.registry = plain.registry) ∧
      plain.answer.TellsOf named ∧
      (∀ name, name ∈ r.backends ↔
        name ∈ plain.answer.closed ∨
          name ∈ plain.answer.failed.map Prod.fst) ∧
      (∀ t, plain.registry.shutdown (noted close) t =
        ⟨⟨[], []⟩, plain.registry, t⟩) ∧
      ∀ name a,
        (plain.registry.register name a).1 = true ∧
          (plain.registry.register name a).2.get? name =
            some a := by
  intro plain observed closings named
  rcases closeAll_noted close
      { r with adapters := Dictionary.empty }
      r.adapters.entries s [] with
    ⟨closings', hAll, hAdapters, hRegistry, hSummary⟩
  have hObserved :
      observed =
        ⟨plain.answer, plain.registry, plain.state, closings'⟩ := by
    simp only [observed, shutdown, hAll]
    rfl
  have hClosings : closings = closings' := by
    simp only [closings, hObserved]
  have hLength : r.backends.length = closings.length := by
    have hSame := congrArg List.length hAdapters
    rw [List.length_map, List.length_map, ← hClosings] at hSame
    rw [backends, Dictionary.keys, List.length_map, hSame]
  have hNames : named.map Prod.fst = r.backends :=
    List.map_fst_zip (Nat.le_of_eq hLength)
  have hAscending : r.backends.Pairwise (· < ·) := by
    rw [backends, Dictionary.keys]
    exact List.pairwise_map.mpr r.adapters.ordered
  have hTells : plain.answer.TellsOf named := by
    have hOrder : (named.map Prod.fst).Pairwise (· < ·) := by
      rw [hNames]
      exact hAscending
    have hAnswer : plain.answer = .of named := by
      simp only [named, hClosings]
      exact hSummary
    rw [hAnswer]
    exact ShutdownSummary.tellsOf_of hOrder
  refine
    ⟨by rw [hObserved], by rw [hObserved], by rw [hObserved], rfl,
      hAscending, ?_, ?_, ?_, hTells, ?_, ?_, ?_⟩
  · rw [← hClosings] at hAdapters
    have hZip :
        named.map (fun x => (x.1, x.2.adapter)) =
          r.backends.zip (closings.map Closing.adapter) := by
      rw [List.zip_map_right]
      rfl
    rw [hZip, hAdapters, backends, Dictionary.keys,
      List.zip_map']
    simp
  · rw [hClosings]
    exact hAdapters
  · rw [hClosings]
    exact hRegistry
  · intro name
    rw [← hNames]
    exact hTells.name_iff name
  · intro t
    exact shutdown_of_empty (noted close) rfl t
  · intro name a
    exact register_of_empty rfl name a

end Registry

end StorageRouting
