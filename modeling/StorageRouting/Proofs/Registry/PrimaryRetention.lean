import Mathlib.Data.List.Infix
import StorageRouting.Proofs.Registry.Lifecycle

/-
  The primary backend of a strict registry stays: it is not
  removed, not replaced and not closed for as long as the
  registry is strict and is not shut down.

  Key definitions include:
    * `Registry.Secured`
    * `RegistryOperation.staysStrict`

  Main statements:
    * `Registry.secured_of_ofSettings`
    * `Registry.unregister_primary`
    * `Custody.run_secured`
    * `Custody.strict_primary_stays`
-/

------------------------------------------------------------
-- Secured Backends
------------------------------------------------------------

namespace StorageRouting

namespace Registry

variable {A σ : Type}

/- A strict registry that has this backend for its primary. -/
structure Secured
    (r : Registry A)
    (a : A) : Prop where
  strict : r.strict = true
  found : r.get? r.primary = some a

/- Having no key leads to the secured backend. -/
theorem Secured.resolve_empty
    {r : Registry A}
    {a : A}
    (h : r.Secured a) : r.resolve "" = .ok a := by
  rw [resolve_of_fallback (Or.inl rfl), primaryAdapter, h.found]

/- The primary name of a strict registry must not be removed. -/
theorem removalRefusal?_primary
    {r : Registry A}
    (h : r.strict = true) :
    ∃ why,
      r.removalRefusal? r.primary =
        some (.driverRemovalRejected why) := by
  unfold removalRefusal?
  split
  · exact ⟨_, rfl⟩
  · rw [if_pos ⟨h, rfl⟩]
    exact ⟨_, rfl⟩

/- To remove the primary backend is refused, without effect. -/
theorem unregister_primary
    (close : Close A σ)
    {r : Registry A}
    (h : r.strict = true)
    (s : σ) :
    ∃ why,
      r.unregister close r.primary s =
        ⟨.error (.driverRemovalRejected why), r, s⟩ := by
  rcases removalRefusal?_primary h with ⟨why, hRefused⟩
  refine ⟨why, ?_⟩
  unfold unregister
  rw [hRefused]

/- A population that succeeds leaves a strict registry secured. -/
theorem secured_of_populate
    {chain : ConverterChain A σ}
    {configs : List BackendConfig}
    {r : Registry A}
    {s : σ}
    (hStrict : r.strict = true)
    (hAnswer : (populate chain configs r s).answer = .ok ()) :
    ∃ a, (populate chain configs r s).registry.Secured a := by
  have hStays :
      (populate chain configs r s).registry.strict = true := by
    rw [populate_registry, registerAll_strict, hStrict]
  cases hAdded : (addAll chain configs r s).answer with
  | error e =>
      rw [populate_of_error hAdded] at hAnswer
      cases hAnswer
  | ok _ =>
      have hEnd := populate_of_ok hAdded
      dsimp only at hEnd
      cases hFound :
          (populate chain configs r s).registry.get?
            (populate chain configs r s).registry.primary with
      | some a => exact ⟨a, hStays, hFound⟩
      | none =>
          -- a strict registry without its primary is an error
          rw [if_pos ⟨hStays, hFound⟩, hAnswer] at hEnd
          cases hEnd

/- Strict settings that are accepted secure a backend. -/
theorem secured_of_ofSettings
    {chain : ConverterChain A σ}
    {settings : Settings}
    {s s' : σ}
    {r : Registry A}
    (hStrict : settings.strict = true)
    (h : ofSettings chain settings s = (.ok r, s')) :
    ∃ a, r.Secured a := by
  unfold ofSettings at h
  dsimp only at h
  split at h
  · rename_i hAnswer
    cases h
    exact secured_of_populate hStrict hAnswer
  · cases h

end Registry

end StorageRouting

------------------------------------------------------------
-- Steps
------------------------------------------------------------

namespace StorageRouting

/-
  Whether an operation leaves a strict registry strict and does
  not shut it down.
-/
def RegistryOperation.staysStrict
    {A σ : Type} : RegistryOperation A σ → Bool
| .register _ _ => true
| .unregister _ => true
| .populate _ _ => true
| .setStrict strict => strict
| .shutdown => false

/- Among distinct values a value has one name. -/
theorem Dictionary.name_unique
    {α : Type}
    {d : Dictionary α}
    (hDistinct : d.values.Nodup)
    {name other : String}
    {a : α}
    (hName : d.get? name = some a)
    (hOther : d.get? other = some a) : name = other := by
  by_contra hNe
  have hRest : (d.erase name).get? other = some a := by
    rw [get?_erase, if_neg (fun hEq => hNe hEq.symm), hOther]
  have hNodup : (a :: (d.erase name).values).Nodup :=
    (values_erase_perm hName).nodup_iff.mp hDistinct
  exact
    (List.nodup_cons.mp hNodup).1 (mem_values_of_get? hRest)

namespace Custody

variable {A σ : Type}

/-
  What became of a backend that was the primary one: it still
  is, and it was not closed since.
-/
structure Kept
    (a : A)
    (c later : Custody A σ) : Prop where
  secured : later.registry.Secured a
  primary : later.registry.primary = c.registry.primary
  unclosed :
    ∃ since, later.closed = c.closed ++ since ∧ a ∉ since

/- Nothing has happened to a secured backend at first. -/
theorem Kept.refl
    {a : A}
    {c : Custody A σ}
    (h : c.registry.Secured a) : Kept a c c :=
  ⟨h, rfl, [], by simp, by simp⟩

/- A backend that was kept twice in a row was kept. -/
theorem Kept.trans
    {a : A}
    {first middle last : Custody A σ}
    (h : Kept a first middle)
    (h' : Kept a middle last) : Kept a first last := by
  rcases h.unclosed with ⟨since, hClosed, hNot⟩
  rcases h'.unclosed with ⟨since', hClosed', hNot'⟩
  refine
    ⟨h'.secured, h'.primary.trans h.primary,
      since ++ since', ?_, ?_⟩
  · rw [hClosed', hClosed, List.append_assoc]
  · simp [hNot, hNot']

/-
  A step keeps the primary backend of a strict registry, unless
  it makes the registry lax or shuts it down.  Another name is
  removed with another backend, as no backend has two names.
-/
theorem step_kept
    (close : Registry.Close A σ)
    {c : Custody A σ}
    {a : A}
    (h : c.registry.Secured a)
    {op : RegistryOperation A σ}
    (hStays : op.staysStrict = true)
    (hDistinct : c.registry.adapters.values.Nodup) :
    Kept a c (c.step close op) := by
  cases op with
  | register name b =>
      refine ⟨⟨?_, ?_⟩, ?_, [], by simp [step, closed], by simp⟩
      · simp [step, h.strict]
      · simp [step, Registry.get?_register, h.found]
      · simp [step]
  | unregister name =>
      rcases c.registry.unregister_cases (noting close) name
          (c.state, c.closes) with
        ⟨e, _, hEq⟩ | ⟨_, _, hEq⟩ | ⟨b, hAllowed, hFound, hEq⟩
      · simpa [step, hEq] using Kept.refl h
      · simpa [step, hEq] using Kept.refl h
      · have hOther : c.registry.primary ≠ name := by
          rintro rfl
          rcases Registry.removalRefusal?_primary h.strict with
            ⟨why, hRefused⟩
          rw [hRefused] at hAllowed
          cases hAllowed
        have hNe : a ≠ b := by
          rintro rfl
          exact
            hOther (Dictionary.name_unique hDistinct h.found hFound)
        refine ⟨⟨?_, ?_⟩, ?_, [b], ?_, by simpa using hNe⟩
        · simpa [step, hEq, Registry.publish, Registry.without]
            using h.strict
        · have hPrimary :
              (c.step close (.unregister name)).registry.primary =
                c.registry.primary := by
            simp [step, hEq, Registry.publish, Registry.without]
          rw [hPrimary]
          simp [step, hEq, Registry.get?_without, hOther, h.found]
        · simp [step, hEq, Registry.publish, Registry.without]
        · simp [step, hEq, noting, closed]
  | populate chain configs =>
      refine ⟨⟨?_, ?_⟩, ?_, [], by simp [step, closed], by simp⟩
      · simp [step, Registry.populate_registry, h.strict]
      · simp [step, Registry.populate_registry,
          Registry.get?_registerAll, h.found]
      · simp [step, Registry.populate_registry]
  | setStrict strict =>
      have hStrict : strict = true := hStays
      refine ⟨⟨?_, ?_⟩, rfl, [], by simp [step, closed], by simp⟩
      · exact hStrict
      · exact h.found
  | shutdown => cases hStays

/- A run keeps the primary backend of a strict registry. -/
theorem run_kept
    (close : Registry.Close A σ)
    {ops : List (RegistryOperation A σ)}
    {c : Custody A σ}
    {a : A}
    (h : c.registry.Secured a)
    (hStays : ∀ op ∈ ops, op.staysStrict = true)
    (hDistinct :
      ∀ before, before <+: ops →
        (c.run close before).registry.adapters.values.Nodup) :
    Kept a c (c.run close ops) := by
  induction ops generalizing c with
  | nil => exact Kept.refl h
  | cons op ops ih =>
      have hStep : Kept a c (c.step close op) :=
        step_kept close h (hStays op (by simp))
          (hDistinct [] (List.nil_prefix))
      apply hStep.trans
      apply ih hStep.secured
      · intro later hLater
        exact hStays later (List.mem_cons_of_mem op hLater)
      · intro before hBefore
        exact
          hDistinct (op :: before)
            ((List.prefix_cons_inj op).mpr hBefore)

end Custody

end StorageRouting

------------------------------------------------------------
-- Retention
------------------------------------------------------------

namespace StorageRouting

namespace Custody

variable {A σ : Type}

/-
  Strict settings that are accepted give a registry with a
  primary backend.  Whenever a strict registry has one, let any
  operations follow that leave it strict and do not shut it
  down, while no backend stands under two names.  At each
  moment the primary backend is still the same, having no key
  leads to it, it was not closed since, and to remove it is
  refused without any effect.
-/
theorem strict_primary_stays
    (close : Registry.Close A σ) :
    (∀ (chain : ConverterChain A σ) (settings : Settings) s r s',
        settings.strict = true →
          Registry.ofSettings chain settings s = (.ok r, s') →
            ∃ a, r.strict = true ∧ r.get? r.primary = some a) ∧
      ∀ (c : Custody A σ) (a : A)
          (ops : List (RegistryOperation A σ)),
        c.registry.strict = true →
        c.registry.get? c.registry.primary = some a →
        (∀ op ∈ ops, op.staysStrict = true) →
        (∀ before, before <+: ops →
          (c.run close before).registry.adapters.values.Nodup) →
        ∀ before, before <+: ops →
          let mid := c.run close before
          mid.registry.primary = c.registry.primary ∧
            mid.registry.strict = true ∧
            mid.registry.get? mid.registry.primary = some a ∧
            mid.registry.resolve "" = .ok a ∧
            (∃ since,
              mid.closed = c.closed ++ since ∧ a ∉ since) ∧
            ∃ why,
              mid.registry.unregister close mid.registry.primary
                  mid.state =
                ⟨.error (.driverRemovalRejected why),
                  mid.registry, mid.state⟩ := by
  constructor
  · intro chain settings s r s' hStrict hAccepted
    rcases Registry.secured_of_ofSettings hStrict hAccepted with
      ⟨a, hSecured⟩
    exact ⟨a, hSecured.strict, hSecured.found⟩
  · intro c a ops hStrict hFound hStays hDistinct before hBefore mid
    have hKept : Kept a c mid := by
      apply run_kept close ⟨hStrict, hFound⟩
      · intro op hOp
        exact hStays op (hBefore.subset hOp)
      · intro earlier hEarlier
        exact hDistinct earlier (hEarlier.trans hBefore)
    exact
      ⟨hKept.primary, hKept.secured.strict, hKept.secured.found,
        hKept.secured.resolve_empty, hKept.unclosed,
        Registry.unregister_primary close hKept.secured.strict
          mid.state⟩

/- Strict settings of two backends. -/
def strictSettings : Settings :=
  { Settings.blank with
    primary := "p", strict := true
    backends :=
      Dictionary.ofList
        (["p", "q"].map
          (fun name => (name, { BackendConfig.blank with name }))) }

/- The registry of the strict settings, before anything else. -/
def ofStrictSettings : Custody Nat Nat :=
  match Registry.ofSettings numbering strictSettings 0 with
  | (.ok registry, state) =>
      { registry, state, handed := [], closes := [] }
  | (.error _, state) => start "p" true none state

/-
  Operations that try to replace the primary backend, to build
  it without success, and to remove it.
-/
def strictRun : List (RegistryOperation Nat Nat) :=
  [.register "p" 20, .unregister "q", .register "r" 21,
    .populate { numbering with converters := [] }
      [{ BackendConfig.blank with name := "p" }],
    .unregister "p", .setStrict true]

/- The first backend of the strict settings stays. -/
theorem strictRun_keeps_primary :
    let last := ofStrictSettings.run oddStubborn strictRun
    (∃ a, ofStrictSettings.registry.get? "p" = some a) ∧
      last.registry.get? "p" = some 0 ∧
      last.registry.resolve "" = .ok 0 ∧
      last.closed = [1] ∧
      ∃ why,
        last.registry.unregister oddStubborn "p" last.state =
          ⟨.error (.driverRemovalRejected why), last.registry,
            last.state⟩ := by
  intro last
  rcases strict_primary_stays oddStubborn with
    ⟨hAccepted, hStays⟩
  have hSettings :
      ∃ a, ofStrictSettings.registry.strict = true ∧
        ofStrictSettings.registry.get? "p" = some a :=
    hAccepted numbering strictSettings 0 ofStrictSettings.registry
      ofStrictSettings.state rfl rfl
  have hInits :
      ∀ before ∈ strictRun.inits,
        (ofStrictSettings.run oddStubborn
          before).registry.adapters.values.Nodup := by
    decide
  have hDistinct :
      ∀ before, before <+: strictRun →
        (ofStrictSettings.run oddStubborn
          before).registry.adapters.values.Nodup := by
    intro before hBefore
    exact hInits before ((List.mem_inits _ _).mpr hBefore)
  have hLast :=
    hStays ofStrictSettings 0 strictRun (by decide) (by decide)
      (by decide) hDistinct strictRun (List.prefix_refl strictRun)
  rcases hLast with ⟨_, _, hFound, hEmpty, _, hRefused⟩
  rcases hSettings with ⟨a, _, hThere⟩
  exact ⟨⟨a, hThere⟩, hFound, hEmpty, by decide, hRefused⟩

end Custody

end StorageRouting
