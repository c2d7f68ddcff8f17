import Mathlib.Data.List.DropRight
import StorageRouting.Proofs.Registry.Lifecycle

/-
  What a registry finds, told from the calls that were made on
  it: under each name the backend of the first registration
  since the name was last given up.

  Key definitions include:
    * `RegistryCall`
    * `RegistryCall.standing?`
    * `RegistryOperation.history`
    * `Registry.ToldBy`

  Main statements:
    * `RegistryCall.standing?_concat`
    * `RegistryOperation.toldBy_run`
    * `RegistryOperation.run_finds_first_registered`
-/

------------------------------------------------------------
-- Calls
------------------------------------------------------------

namespace StorageRouting

/- A call on a registry, with its answer where it has one. -/
inductive RegistryCall (A : Type) where
| register
    (name : String)
    (a : A)
    (added : Bool) : RegistryCall A
| unregister
    (name : String)
    (answer : Except Error Bool) : RegistryCall A
| setStrict (strict : Bool) : RegistryCall A
| shutdown : RegistryCall A

namespace RegistryCall

variable {A : Type}

/- The backend that a call offers for a name. -/
def given?
    (name : String) : RegistryCall A → Option A
| .register other a _ => if name = other then some a else none
| .unregister _ _ => none
| .setStrict _ => none
| .shutdown => none

/- Whether a call gives a name up. -/
def clears
    (name : String) : RegistryCall A → Bool
| .register _ _ _ => false
| .unregister other (.ok true) => name == other
| .unregister _ _ => false
| .setStrict _ => false
| .shutdown => true

/- The calls since a name was last given up. -/
def sinceCleared
    (name : String)
    (calls : List (RegistryCall A)) : List (RegistryCall A) :=
  calls.rtakeWhile (fun c => !c.clears name)

/-
  The backend of the first registration under a name since the
  name was last given up.
-/
def standing?
    (name : String)
    (calls : List (RegistryCall A)) : Option A :=
  (sinceCleared name calls).findSome? (given? name)

/- What stands under a name after one more call. -/
theorem standing?_concat
    (name : String)
    (calls : List (RegistryCall A))
    (c : RegistryCall A) :
    standing? name (calls ++ [c]) =
      if c.clears name then none
      else (standing? name calls).or (c.given? name) := by
  unfold standing? sinceCleared
  rw [List.rtakeWhile_concat]
  cases hClears : c.clears name with
  | true => simp
  | false => simp [List.findSome?_append]

end RegistryCall

end StorageRouting

------------------------------------------------------------
-- Histories
------------------------------------------------------------

namespace StorageRouting

namespace RegistryCall

variable {A : Type}

/- The calls that register backends in order. -/
def registrations :
    List (String × A) → Registry A → List (RegistryCall A)
| [], _ => []
| (name, a) :: rest, r =>
    let (added, r) := r.register name a
    .register name a added :: registrations rest r

end RegistryCall

namespace RegistryOperation

variable {A σ : Type}

/-
  The calls of an operation.  A population registers every
  backend that it builds.
-/
def calls
    (close : Registry.Close A σ)
    (r : Registry A)
    (s : σ) :
    RegistryOperation A σ → List (RegistryCall A)
| .register name a => [.register name a (r.register name a).1]
| .unregister name =>
    [.unregister name (r.unregister close name s).answer]
| .populate chain configs =>
    RegistryCall.registrations (Registry.built chain configs r s) r
| .setStrict strict => [.setStrict strict]
| .shutdown => [.shutdown]

/- The calls of a run, oldest first. -/
def history
    (close : Registry.Close A σ) :
    List (RegistryOperation A σ) →
      Registry A × σ → List (RegistryCall A)
| [], _ => []
| op :: ops, x =>
    op.calls close x.1 x.2 ++
      history close ops (op.apply close x.1 x.2)

end RegistryOperation

end StorageRouting

------------------------------------------------------------
-- Registries Told by Their Calls
------------------------------------------------------------

namespace StorageRouting

namespace Registry

variable {A σ : Type}

/-
  A registry finds what stands according to its calls, and took
  a backend exactly when nothing stood under the name.
-/
structure ToldBy
    (calls : List (RegistryCall A))
    (r : Registry A) : Prop where
  lookup : ∀ name, r.get? name = RegistryCall.standing? name calls
  answers :
    ∀ before name a added,
      before ++ [.register name a added] <+: calls →
        (added = true ↔ RegistryCall.standing? name before = none)

/- A registry without backends and without calls. -/
theorem ToldBy.start
    (primary : String)
    (strict : Bool)
    (events : Option (List RegistryEvent)) :
    ToldBy (A := A) []
      { primary, strict, adapters := Dictionary.empty, events }
    where
  lookup _ := rfl
  answers before name a added h := by
    simp at h

/- One more call, told by what it gives and what it clears. -/
theorem ToldBy.concat
    {calls : List (RegistryCall A)}
    {r r' : Registry A}
    {c : RegistryCall A}
    (h : ToldBy calls r)
    (hLookup :
      ∀ name, r'.get? name =
        if c.clears name then none
        else (r.get? name).or (c.given? name))
    (hAnswer :
      ∀ name a added, c = .register name a added →
        (added = true ↔ r.get? name = none)) :
    ToldBy (calls ++ [c]) r' where
  lookup name := by
    rw [hLookup, RegistryCall.standing?_concat, h.lookup]
  answers before name a added hMoment := by
    rcases List.prefix_concat_iff.mp hMoment with hLast | hOld
    · rcases List.append_inj' hLast rfl with ⟨rfl, hCall⟩
      rw [← h.lookup]
      exact
        hAnswer name a added (List.singleton_inj.mp hCall).symm
    · exact h.answers before name a added hOld

/- A registration answers whether nothing was there. -/
theorem register_eq_true_iff
    (r : Registry A)
    (name : String)
    (a : A) :
    (r.register name a).1 = true ↔ r.get? name = none := by
  rcases r.register_cases name a with
    ⟨⟨b, hTaken⟩, hEq⟩ | ⟨hFree, hEq⟩
  · simp [hEq, hTaken]
  · simp [hEq, hFree]

/- A refused registration changes nothing. -/
theorem register_eq_self
    {r : Registry A}
    {name : String}
    {a : A}
    (h : (r.register name a).1 = false) :
    (r.register name a).2 = r := by
  rcases r.register_cases name a with ⟨_, hEq⟩ | ⟨_, hEq⟩
  · rw [hEq]
  · simp [hEq] at h

/- A removal that does not find anything changes nothing. -/
theorem unregister_eq_self
    {close : Close A σ}
    {r : Registry A}
    {name : String}
    {s : σ}
    (h : (r.unregister close name s).answer ≠ .ok true) :
    (r.unregister close name s).registry = r := by
  rcases r.unregister_cases close name s with
    ⟨e, _, hEq⟩ | ⟨_, _, hEq⟩ | ⟨a, _, _, hEq⟩
  · rw [hEq]
  · rw [hEq]
  · simp [hEq] at h

/- A registration is told by its call. -/
theorem ToldBy.register
    {calls : List (RegistryCall A)}
    {r : Registry A}
    (h : ToldBy calls r)
    (name : String)
    (a : A) :
    ToldBy (calls ++ [.register name a (r.register name a).1])
      (r.register name a).2 := by
  apply h.concat
  · intro other
    exact r.get?_register name other a
  · intro other b added hCall
    cases hCall
    exact r.register_eq_true_iff name a

/- Registrations in order are told by their calls. -/
theorem ToldBy.registerAll
    {calls : List (RegistryCall A)}
    {r : Registry A}
    (h : ToldBy calls r)
    (named : List (String × A)) :
    ToldBy (calls ++ RegistryCall.registrations named r)
      (registerAll named r).2 := by
  induction named generalizing calls r with
  | nil =>
      simpa [RegistryCall.registrations, Registry.registerAll]
        using h
  | cons e rest ih =>
      have hRest := ih (h.register e.1 e.2)
      simpa [RegistryCall.registrations, Registry.registerAll]
        using hRest

/- A removal is told by its call. -/
theorem ToldBy.unregister
    {calls : List (RegistryCall A)}
    {r : Registry A}
    (h : ToldBy calls r)
    (close : Close A σ)
    (name : String)
    (s : σ) :
    ToldBy
      (calls ++
        [.unregister name (r.unregister close name s).answer])
      (r.unregister close name s).registry := by
  apply h.concat
  · intro other
    rcases r.unregister_cases close name s with
      ⟨e, _, hEq⟩ | ⟨_, _, hEq⟩ | ⟨a, _, _, hEq⟩
    · simp [hEq, RegistryCall.clears, RegistryCall.given?]
    · simp [hEq, RegistryCall.clears, RegistryCall.given?]
    · simp [hEq, RegistryCall.clears, RegistryCall.given?,
        get?_without]
  · intro other b added hCall
    cases hCall

end Registry

namespace RegistryOperation

variable {A σ : Type}

/- An operation is told by its calls. -/
theorem toldBy_apply
    (close : Registry.Close A σ)
    {calls : List (RegistryCall A)}
    {r : Registry A}
    (h : Registry.ToldBy calls r)
    (s : σ)
    (op : RegistryOperation A σ) :
    Registry.ToldBy (calls ++ op.calls close r s)
      (op.apply close r s).1 := by
  cases op with
  | register name a => exact h.register name a
  | unregister name => exact h.unregister close name s
  | populate chain configs =>
      simp only [RegistryOperation.calls, apply,
        Registry.populate_registry]
      exact h.registerAll _
  | setStrict strict =>
      apply h.concat
      · intro name
        simp [apply, RegistryCall.clears, RegistryCall.given?,
          Registry.setStrict, Registry.get?]
      · intro name a added hCall
        cases hCall
  | shutdown =>
      apply h.concat
      · intro name
        exact Dictionary.get?_empty name
      · intro name a added hCall
        cases hCall

/- A run is told by its history. -/
theorem toldBy_run
    (close : Registry.Close A σ)
    (ops : List (RegistryOperation A σ))
    {calls : List (RegistryCall A)}
    {x : Registry A × σ}
    (h : Registry.ToldBy calls x.1) :
    Registry.ToldBy (calls ++ history close ops x)
      (run close ops x).1 := by
  induction ops generalizing calls x with
  | nil => simpa [history, run] using h
  | cons op ops ih =>
      have hRest := ih (toldBy_apply close h x.2 op)
      simpa [history, run] using hRest

/- No operation changes the name of the primary backend. -/
theorem apply_primary
    (close : Registry.Close A σ)
    (r : Registry A)
    (s : σ)
    (op : RegistryOperation A σ) :
    (op.apply close r s).1.primary = r.primary := by
  cases op with
  | register name a => exact r.register_primary name a
  | unregister name =>
      rcases r.unregister_cases close name s with
        ⟨e, _, hEq⟩ | ⟨_, _, hEq⟩ | ⟨a, _, _, hEq⟩ <;>
        simp [apply, hEq, Registry.publish, Registry.without]
  | populate chain configs =>
      simp [apply, Registry.populate_registry]
  | setStrict strict => rfl
  | shutdown => rfl

/- No run changes the name of the primary backend. -/
theorem run_primary
    (close : Registry.Close A σ)
    (ops : List (RegistryOperation A σ))
    (x : Registry A × σ) :
    (run close ops x).1.primary = x.1.primary := by
  induction ops generalizing x with
  | nil => rfl
  | cons op ops ih => rw [run, ih, apply_primary]

end RegistryOperation

end StorageRouting

------------------------------------------------------------
-- What Is Found
------------------------------------------------------------

namespace StorageRouting

namespace RegistryOperation

variable {A σ : Type}

/-
  After any run of a registry, a name finds the backend of its
  first registration since it was last given up, so a
  registration succeeds exactly when nothing is found, and
  nothing is ever overwritten: registrations and removals that
  do not succeed leave the registry alone.  A routing key leads
  to the backend of that name; an unknown one is refused by a
  strict registry and else leads, as the empty one does, to the
  primary backend, if there is one.
-/
theorem run_finds_first_registered
    (close : Registry.Close A σ)
    (primary : String)
    (strict : Bool)
    (events : Option (List RegistryEvent))
    (s : σ)
    (ops : List (RegistryOperation A σ)) :
    let first : Registry A :=
      { primary, strict, adapters := Dictionary.empty, events }
    let last := (run close ops (first, s)).1
    let calls := history close ops (first, s)
    (∀ name,
        last.get? name = RegistryCall.standing? name calls) ∧
      (∀ before name a added,
        before ++ [.register name a added] <+: calls →
          (added = true ↔
            RegistryCall.standing? name before = none)) ∧
      (∀ name a,
        (last.register name a).1 = true ↔
          last.get? name = none) ∧
      (∀ name a,
        (last.register name a).1 = false →
          (last.register name a).2 = last) ∧
      (∀ name s,
        (last.unregister close name s).answer ≠ .ok true →
          (last.unregister close name s).registry = last) ∧
      last.primary = primary ∧
      (∀ key a, key ≠ "" → last.get? key = some a →
        last.resolve key = .ok a) ∧
      (∀ key, key ≠ "" → last.get? key = none →
        last.strict = true →
          last.resolve key = .error (.unknownBackend key)) ∧
      (∀ key,
        key = "" ∨
            (last.get? key = none ∧ last.strict = false) →
          last.resolve key =
            (last.get? primary).elim
              (.error (.unknownBackend primary)) .ok) ∧
      last.resolve "" = last.resolve primary := by
  intro first last calls
  have hTold : Registry.ToldBy calls last := by
    have hRun :=
      toldBy_run close ops (x := (first, s))
        (Registry.ToldBy.start primary strict events)
    simpa using hRun
  have hPrimary : last.primary = primary :=
    run_primary close ops (first, s)
  refine
    ⟨hTold.lookup, hTold.answers, last.register_eq_true_iff,
      fun _ _ => Registry.register_eq_self,
      fun _ _ => Registry.unregister_eq_self, hPrimary,
      fun _ _ => Registry.resolve_of_get?,
      fun _ => Registry.resolve_of_strict, ?_, ?_⟩
  · intro key hKey
    rw [Registry.resolve_of_fallback hKey, Registry.primaryAdapter,
      hPrimary]
    cases last.get? primary <;> rfl
  · rw [← hPrimary]
    exact last.resolve_empty

/-
  After the mixed run the primary name finds the backend that
  was registered after the shutdown, the name that was used
  before it finds nothing, and the empty key leads to primary.
-/
theorem mixedRun_finds_first_registered :
    let first : Registry Nat :=
      { primary := "p", strict := false
        adapters := Dictionary.empty, events := none }
    let last :=
      (run Custody.oddStubborn Custody.mixedRun (first, 10)).1
    last.get? "p" = some 4 ∧
      last.get? "b" = none ∧
      last.strict = true ∧
      last.resolve "b" = .error (.unknownBackend "b") ∧
      last.resolve "" = .ok 4 := by
  intro first last
  rcases run_finds_first_registered Custody.oddStubborn "p" false
      none 10 Custody.mixedRun with
    ⟨hLookup, _, _, _, _, _, hKnown, hStrict, _, hEmpty⟩
  have hPrimary : last.get? "p" = some 4 := by
    rw [hLookup]
    decide
  have hOther : last.get? "b" = none := by
    rw [hLookup]
    decide
  refine ⟨hPrimary, hOther, by decide, ?_, ?_⟩
  · exact hStrict "b" (by decide) hOther (by decide)
  · rw [hEmpty]
    exact hKnown "p" 4 (by decide) hPrimary

end RegistryOperation

end StorageRouting
