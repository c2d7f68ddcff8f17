import StorageRouting.Registry.Converter

/-
  Runs of operations that change a registry, and what each
  operation can do.

  Key definitions include:
    * `RegistryOperation`
    * `RegistryOperation.run`
    * `Registry.built`
    * `Registry.registerAll`
    * `Registry.Offers`

  Main statements:
    * `Registry.register_cases`
    * `Registry.get?_registerAll`
    * `Registry.addAll_cons_cases`
    * `Registry.populate_registry`
    * `Registry.unregister_cases`
    * `Registry.resolve_empty`
    * `Registry.mem_values_of_offers`
-/

------------------------------------------------------------
-- Operations
------------------------------------------------------------

namespace StorageRouting

/- An operation that changes a registry. -/
inductive RegistryOperation (A σ : Type) where
| register (name : String) (a : A) : RegistryOperation A σ
| unregister (name : String) : RegistryOperation A σ
| populate
    (chain : ConverterChain A σ)
    (configs : List BackendConfig) : RegistryOperation A σ
| setStrict (strict : Bool) : RegistryOperation A σ
| shutdown : RegistryOperation A σ

namespace RegistryOperation

variable {A σ : Type}

/-
  Carry out an operation on a registry and the state behind its
  backends.
-/
def apply
    (close : Registry.Close A σ)
    (r : Registry A)
    (s : σ) :
    RegistryOperation A σ → Registry A × σ
| .register name a => ((r.register name a).2, s)
| .unregister name =>
    let c := r.unregister close name s
    (c.registry, c.state)
| .populate chain configs =>
    let c := r.populate chain configs s
    (c.registry, c.state)
| .setStrict strict => (r.setStrict strict, s)
| .shutdown =>
    let c := r.shutdown close s
    (c.registry, c.state)

/- Carry out operations one after the other. -/
def run
    (close : Registry.Close A σ) :
    List (RegistryOperation A σ) →
      Registry A × σ → Registry A × σ
| [], x => x
| op :: ops, x => run close ops (op.apply close x.1 x.2)

end RegistryOperation

end StorageRouting

------------------------------------------------------------
-- Adding
------------------------------------------------------------

namespace StorageRouting

namespace Registry

variable {A σ : Type}

/- A name has a backend when one is found under it. -/
theorem contains_eq
    (r : Registry A)
    (name : String) :
    r.contains name = (r.get? name).isSome :=
  rfl

/- A registration refuses a taken name or takes a free one. -/
theorem register_cases
    (r : Registry A)
    (name : String)
    (a : A) :
    ((∃ b, r.get? name = some b) ∧
        r.register name a = (false, r)) ∨
      (r.get? name = none ∧
        r.register name a =
          (true,
            publish
              { r with adapters := r.adapters.insert name a }
              ⟨name, .added⟩)) := by
  unfold register contains
  cases hFound : r.adapters.get? name with
  | some b =>
      left
      exact ⟨⟨b, hFound⟩, by simp [Dictionary.contains, hFound]⟩
  | none =>
      right
      exact ⟨hFound, by simp [Dictionary.contains, hFound]⟩

/-
  Register backends in order: each one with the answer to its
  registration, and the registry in the end.
-/
def registerAll :
    List (String × A) → Registry A → List (A × Bool) × Registry A
| [], r => ([], r)
| (name, a) :: rest, r =>
    let (added, r) := r.register name a
    let (answers, r) := registerAll rest r
    ((a, added) :: answers, r)

/- What is found under a name after a registration. -/
theorem get?_register
    (r : Registry A)
    (name other : String)
    (a : A) :
    (r.register name a).2.get? other =
      (r.get? other).or
        (if other = name then some a else none) := by
  rcases r.register_cases name a with
    ⟨⟨b, hTaken⟩, hEq⟩ | ⟨hFree, hEq⟩
  · by_cases hSame : other = name
    · simp [hEq, hSame, hTaken]
    · simp [hEq, hSame]
  · have hInsert :
        (r.register name a).2.get? other =
          if other = name then some a else r.get? other := by
      rw [hEq]
      exact Dictionary.get?_insert r.adapters name other a
    rw [hInsert]
    by_cases hSame : other = name
    · simp [hSame, hFree]
    · simp [hSame]

/- A registration leaves the name of the primary backend. -/
@[simp] theorem register_primary
    (r : Registry A)
    (name : String)
    (a : A) : (r.register name a).2.primary = r.primary := by
  unfold register
  split <;> rfl

/- A registration leaves the strictness. -/
@[simp] theorem register_strict
    (r : Registry A)
    (name : String)
    (a : A) : (r.register name a).2.strict = r.strict := by
  unfold register
  split <;> rfl

/- Registrations can be made in two parts. -/
theorem registerAll_append
    (named more : List (String × A))
    (r : Registry A) :
    (registerAll (named ++ more) r).2 =
      (registerAll more (registerAll named r).2).2 := by
  induction named generalizing r with
  | nil => rfl
  | cons e rest ih =>
      simpa [registerAll] using ih (r.register e.1 e.2).2

/- What is found under a name after registrations. -/
theorem get?_registerAll
    (named : List (String × A))
    (r : Registry A)
    (other : String) :
    (registerAll named r).2.get? other =
      (r.get? other).or (named.lookup other) := by
  induction named generalizing r with
  | nil => simp [registerAll]
  | cons e rest ih =>
      rcases e with ⟨name, a⟩
      have hRest := ih (r.register name a).2
      rw [get?_register, Option.or_assoc] at hRest
      by_cases hSame : other = name
      · simpa [registerAll, hSame] using hRest
      · have hb : (other == name) = false := by simp [hSame]
        simpa [registerAll, hSame, List.lookup_cons, hb]
          using hRest

/- Registrations leave the name of the primary backend. -/
@[simp] theorem registerAll_primary
    (named : List (String × A))
    (r : Registry A) :
    (registerAll named r).2.primary = r.primary := by
  induction named generalizing r with
  | nil => rfl
  | cons e rest ih =>
      simpa [registerAll] using ih (r.register e.1 e.2).2

/- Registrations leave the strictness. -/
@[simp] theorem registerAll_strict
    (named : List (String × A))
    (r : Registry A) :
    (registerAll named r).2.strict = r.strict := by
  induction named generalizing r with
  | nil => rfl
  | cons e rest ih =>
      simpa [registerAll] using ih (r.register e.1 e.2).2

/- The backends that a population builds, by name, in order. -/
def built
    (chain : ConverterChain A σ) :
    List BackendConfig → Registry A → σ → List (String × A)
| [], _, _ => []
| config :: rest, r, s =>
    match build chain config s with
    | (.ok a, s) =>
        (config.name, a) ::
          built chain rest (r.register config.name a).2 s
    | (.error _, s) =>
        if r.strict ∧ config.name = r.primary then []
        else built chain rest r s

/-
  What becomes of the first configuration: its backend is
  registered, or its failure ends everything, or it is passed
  over.
-/
theorem addAll_cons_cases
    (chain : ConverterChain A σ)
    (config : BackendConfig)
    (rest : List BackendConfig)
    (r : Registry A)
    (s : σ) :
    (∃ a s',
        build chain config s = (.ok a, s') ∧
        addAll chain (config :: rest) r s =
          addAll chain rest (r.register config.name a).2 s' ∧
        built chain (config :: rest) r s =
          (config.name, a) ::
            built chain rest (r.register config.name a).2 s') ∨
      (∃ e s',
        build chain config s = (.error e, s') ∧
        (r.strict = true ∧ config.name = r.primary) ∧
        addAll chain (config :: rest) r s = ⟨.error e, r, s'⟩ ∧
        built chain (config :: rest) r s = []) ∨
      (∃ e s',
        build chain config s = (.error e, s') ∧
        ¬ (r.strict = true ∧ config.name = r.primary) ∧
        addAll chain (config :: rest) r s =
          addAll chain rest r s' ∧
        built chain (config :: rest) r s =
          built chain rest r s') := by
  rcases hBuild : build chain config s with ⟨outcome, s'⟩
  cases outcome with
  | ok a =>
      left
      refine ⟨a, s', rfl, ?_, ?_⟩
      · simp only [addAll, hBuild]
      · simp only [built, hBuild]
  | error e =>
      right
      by_cases hFatal : r.strict = true ∧ config.name = r.primary
      · left
        refine ⟨e, s', rfl, hFatal, ?_, ?_⟩
        · simp only [addAll, hBuild, if_pos hFatal]
        · simp only [built, hBuild, if_pos hFatal]
      · right
        refine ⟨e, s', rfl, hFatal, ?_, ?_⟩
        · simp only [addAll, hBuild, if_neg hFatal]
        · simp only [built, hBuild, if_neg hFatal]

/- Adding configurations registers the backends built of them. -/
theorem addAll_registry
    (chain : ConverterChain A σ)
    (configs : List BackendConfig)
    (r : Registry A)
    (s : σ) :
    (addAll chain configs r s).registry =
      (registerAll (built chain configs r s) r).2 := by
  induction configs generalizing r s with
  | nil => rfl
  | cons config rest ih =>
      rcases addAll_cons_cases chain config rest r s with
        ⟨a, s', _, hAll, hBuilt⟩ | ⟨e, s', _, _, hAll, hBuilt⟩ |
          ⟨e, s', _, _, hAll, hBuilt⟩
      · rw [hAll, hBuilt, ih]
        rfl
      · rw [hAll, hBuilt]
        rfl
      · rw [hAll, hBuilt, ih]

/- A population registers the backends that it builds. -/
theorem populate_registry
    (chain : ConverterChain A σ)
    (configs : List BackendConfig)
    (r : Registry A)
    (s : σ) :
    (populate chain configs r s).registry =
      (registerAll (built chain configs r s) r).2 := by
  rw [← addAll_registry]
  unfold populate
  dsimp only
  split
  · rfl
  · split <;> rfl

/- A population is left with what adding leaves it with. -/
theorem populate_left
    (chain : ConverterChain A σ)
    (configs : List BackendConfig)
    (r : Registry A)
    (s : σ) :
    (populate chain configs r s).registry =
        (addAll chain configs r s).registry ∧
      (populate chain configs r s).state =
        (addAll chain configs r s).state := by
  unfold populate
  dsimp only
  split
  · exact ⟨rfl, rfl⟩
  · split <;> exact ⟨rfl, rfl⟩

/- A failure that stops a population is its answer. -/
theorem populate_of_error
    {chain : ConverterChain A σ}
    {configs : List BackendConfig}
    {r : Registry A}
    {s : σ}
    {e : Error}
    (h : (addAll chain configs r s).answer = .error e) :
    (populate chain configs r s).answer = .error e := by
  unfold populate
  simp only [h]

/- A population that was not stopped looks for the primary. -/
theorem populate_of_ok
    {chain : ConverterChain A σ}
    {configs : List BackendConfig}
    {r : Registry A}
    {s : σ}
    (h : (addAll chain configs r s).answer = .ok ()) :
    let left := (populate chain configs r s).registry
    (populate chain configs r s).answer =
      if left.strict = true ∧ left.get? left.primary = none then
        .error (missingPrimary left.primary)
      else .ok () := by
  intro left
  have hLeft : left = (addAll chain configs r s).registry :=
    (populate_left chain configs r s).1
  rw [hLeft]
  unfold populate
  simp only [h, contains_eq, Option.not_isSome_iff_eq_none]
  split
  · rfl
  · exact h

end Registry

end StorageRouting

------------------------------------------------------------
-- Removing
------------------------------------------------------------

namespace StorageRouting

namespace Registry

variable {A σ : Type}

/- A registry without the backend of a name. -/
def without
    (r : Registry A)
    (name : String) : Registry A :=
  { r with adapters := r.adapters.erase name }

/- An event that is told of changes no lookup. -/
@[simp] theorem get?_publish
    (r : Registry A)
    (e : RegistryEvent)
    (name : String) : (r.publish e).get? name = r.get? name :=
  rfl

/- What is found without the backend of a name. -/
theorem get?_without
    (r : Registry A)
    (name other : String) :
    (r.without name).get? other =
      if other = name then none else r.get? other :=
  Dictionary.get?_erase r.adapters name other

/-
  A removal is refused, finds nothing, or takes a backend out
  and then closes it.
-/
theorem unregister_cases
    (close : Close A σ)
    (r : Registry A)
    (name : String)
    (s : σ) :
    (∃ e, r.removalRefusal? name = some e ∧
        r.unregister close name s = ⟨.error e, r, s⟩) ∨
      (r.removalRefusal? name = none ∧
        r.get? name = none ∧
        r.unregister close name s = ⟨.ok false, r, s⟩) ∨
      (∃ a, r.removalRefusal? name = none ∧
        r.get? name = some a ∧
        r.unregister close name s =
          ⟨.ok true, (r.without name).publish ⟨name, .removed⟩,
            (close (r.without name) a s).2⟩) := by
  unfold unregister
  cases hRefused : r.removalRefusal? name with
  | some e => exact Or.inl ⟨e, rfl, rfl⟩
  | none =>
      cases hFound : r.get? name with
      | none => exact Or.inr (Or.inl ⟨rfl, rfl, rfl⟩)
      | some a => exact Or.inr (Or.inr ⟨a, rfl, rfl, rfl⟩)

end Registry

end StorageRouting

------------------------------------------------------------
-- Looking Up
------------------------------------------------------------

namespace StorageRouting

namespace Registry

variable {A : Type}

/-
  A backend can be had from a registry: by a routing key, by a
  routing stack, by its name, or as one of all backends.
-/
def Offers
    (r : Registry A)
    (a : A) : Prop :=
  (∃ key, r.resolve key = .ok a) ∨
    (∃ stack, r.current stack = .ok a) ∨
    (∃ name, r.get? name = some a) ∨
    a ∈ r.adapters.values

/- A key under which a backend stands leads to that backend. -/
theorem resolve_of_get?
    {r : Registry A}
    {key : String}
    {a : A}
    (hKey : key ≠ "")
    (hFound : r.get? key = some a) : r.resolve key = .ok a := by
  have hFull : key.isEmpty = false := by simpa using hKey
  simp [resolve, hFull, hFound]

/- A strict registry refuses a key that it does not know. -/
theorem resolve_of_strict
    {r : Registry A}
    {key : String}
    (hKey : key ≠ "")
    (hAbsent : r.get? key = none)
    (hStrict : r.strict = true) :
    r.resolve key = .error (.unknownBackend key) := by
  have hFull : key.isEmpty = false := by simpa using hKey
  simp [resolve, hFull, hAbsent, hStrict]

/- Any other key leads to the primary backend. -/
theorem resolve_of_fallback
    {r : Registry A}
    {key : String}
    (h : key = "" ∨ (r.get? key = none ∧ r.strict = false)) :
    r.resolve key = r.primaryAdapter := by
  rcases h with rfl | ⟨hAbsent, hLax⟩
  · simp [resolve]
  · simp [resolve, hAbsent, hLax]

/- The empty key and the primary name lead to the same end. -/
theorem resolve_empty
    (r : Registry A) : r.resolve "" = r.resolve r.primary := by
  rw [resolve_of_fallback (Or.inl rfl)]
  by_cases hKey : r.primary = ""
  · rw [resolve_of_fallback (Or.inl hKey)]
  · cases hFound : r.get? r.primary with
    | some a =>
        rw [resolve_of_get? hKey hFound]
        simp [primaryAdapter, hFound]
    | none =>
        cases hStrict : r.strict with
        | true =>
            rw [resolve_of_strict hKey hFound hStrict]
            simp [primaryAdapter, hFound]
        | false =>
            rw [resolve_of_fallback (Or.inr ⟨hFound, hStrict⟩)]

/- The primary backend stands under the primary name. -/
theorem get?_primary_of_primaryAdapter
    {r : Registry A}
    {a : A}
    (h : r.primaryAdapter = .ok a) :
    r.get? r.primary = some a := by
  unfold primaryAdapter at h
  cases hFound : r.get? r.primary with
  | none => simp [hFound] at h
  | some b =>
      rw [hFound] at h
      exact congrArg some (Except.ok.inj h)

/- A routing key leads to a backend that has a name. -/
theorem exists_get?_of_resolve
    {r : Registry A}
    {key : String}
    {a : A}
    (h : r.resolve key = .ok a) :
    ∃ name, r.get? name = some a := by
  unfold resolve at h
  split at h
  · exact ⟨_, get?_primary_of_primaryAdapter h⟩
  · split at h
    · rename_i b hFound
      exact ⟨key, by rw [hFound, Except.ok.inj h]⟩
    · split at h
      · exact absurd h (by simp)
      · exact ⟨_, get?_primary_of_primaryAdapter h⟩

/- Only backends of the map can be had from a registry. -/
theorem mem_values_of_offers
    {r : Registry A}
    {a : A}
    (h : r.Offers a) : a ∈ r.adapters.values := by
  rcases h with ⟨key, hKey⟩ | ⟨stack, hStack⟩ | ⟨name, hName⟩ | h
  · rcases exists_get?_of_resolve hKey with ⟨name, hName⟩
    exact Dictionary.mem_values_of_get? hName
  · rcases exists_get?_of_resolve hStack with ⟨name, hName⟩
    exact Dictionary.mem_values_of_get? hName
  · exact Dictionary.mem_values_of_get? hName
  · exact h

end Registry

end StorageRouting
