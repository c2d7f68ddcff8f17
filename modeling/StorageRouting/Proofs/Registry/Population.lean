import StorageRouting.Proofs.Registry.Lifecycle
import StorageRouting.Scenario.Fleet

/-
  What a population does: each configuration is built in its
  turn, the first backend that was built for a free name is
  taken over, and a strict registry stops when its primary
  backend cannot be built.

  Key definitions include:
    * `ConverterChain.Declined`
    * `ConverterChain.Makes`
    * `Registry.attempts`
    * `Registry.Fatal`
    * `Registry.TakesOver`

  Main statements:
    * `ConverterChain.makes_iff`
    * `Registry.registerAll_takesOver`
    * `Registry.addAll_cases`
    * `Registry.populate_takes_first_built`
-/

------------------------------------------------------------
-- Asking Converters
------------------------------------------------------------

namespace StorageRouting

namespace ConverterChain

variable {A σ : Type}

/- Converters decline a configuration one after the other. -/
inductive Declined
    (credentials : CredentialResolver σ)
    (config : BackendConfig) :
    List (Converter A σ) → σ → σ → Prop where
| nobody (s : σ) : Declined credentials config [] s s
| next
    {c : Converter A σ}
    {rest : List (Converter A σ)}
    {s s' s'' : σ}
    (hDeclines : c.convert config credentials s = (.ok none, s'))
    (hRest : Declined credentials config rest s' s'') :
    Declined credentials config (c :: rest) s s''

/-
  What should come of a configuration.  One that names a
  converter is left to the first of that name; any other to the
  first converter that does not decline it.
-/
inductive Makes
    (chain : ConverterChain A σ)
    (config : BackendConfig)
    (s : σ) : Except Error (Option A) × σ → Prop where
| wanted
    {wanted : String}
    {before after : List (Converter A σ)}
    {c : Converter A σ}
    (hWanted : config.adapter = some wanted)
    (hChain : chain.converters = before ++ c :: after)
    (hBefore : ∀ d ∈ before, d.name ≠ wanted)
    (hName : c.name = wanted) :
    Makes chain config s (c.convert config chain.credentials s)
| unknown
    {wanted : String}
    (hWanted : config.adapter = some wanted)
    (hNobody : ∀ c ∈ chain.converters, c.name ≠ wanted) :
    Makes chain config s
      (.error (unknownAdapter config.name wanted), s)
| first
    {before after : List (Converter A σ)}
    {c : Converter A σ}
    {s' : σ}
    (hFree : config.adapter = none)
    (hChain : chain.converters = before ++ c :: after)
    (hBefore :
      Declined chain.credentials config before s s')
    (hSettles :
      (c.convert config chain.credentials s').1 ≠ .ok none) :
    Makes chain config s (c.convert config chain.credentials s')
| unclaimed
    {s' : σ}
    (hFree : config.adapter = none)
    (hNobody :
      Declined chain.credentials config chain.converters s s') :
    Makes chain config s (.ok none, s')

/- A configuration that names no converter is searched for. -/
theorem convert_of_free
    (chain : ConverterChain A σ)
    {config : BackendConfig}
    (hFree : config.adapter = none)
    (s : σ) :
    chain.convert config s =
      firstOf chain.credentials config chain.converters s := by
  simp only [convert, hFree]

/- A configuration that names a converter is given to it. -/
theorem convert_of_found
    (chain : ConverterChain A σ)
    {config : BackendConfig}
    {wanted : String}
    {c : Converter A σ}
    (hWanted : config.adapter = some wanted)
    (hFind :
      chain.converters.find? (fun c => c.name == wanted) = some c)
    (s : σ) :
    chain.convert config s =
      c.convert config chain.credentials s := by
  simp only [convert, hWanted, hFind]

/- A configuration that names an unknown converter fails. -/
theorem convert_of_unknown
    (chain : ConverterChain A σ)
    {config : BackendConfig}
    {wanted : String}
    (hWanted : config.adapter = some wanted)
    (hFind :
      chain.converters.find? (fun c => c.name == wanted) = none)
    (s : σ) :
    chain.convert config s =
      (.error (unknownAdapter config.name wanted), s) := by
  simp only [convert, hWanted, hFind]
  rfl

/- The search goes on behind converters that decline. -/
theorem firstOf_of_declined
    {credentials : CredentialResolver σ}
    {config : BackendConfig}
    {before : List (Converter A σ)}
    {s s' : σ}
    (h : Declined credentials config before s s')
    (rest : List (Converter A σ)) :
    firstOf credentials config (before ++ rest) s =
      firstOf credentials config rest s' := by
  induction h with
  | nobody s => rfl
  | next hDeclines _ ih =>
      rw [List.cons_append, firstOf, hDeclines]
      exact ih

/- The search ends at a converter that does not decline. -/
theorem firstOf_of_settled
    {credentials : CredentialResolver σ}
    {config : BackendConfig}
    {c : Converter A σ}
    {s : σ}
    (h : (c.convert config credentials s).1 ≠ .ok none)
    (rest : List (Converter A σ)) :
    firstOf credentials config (c :: rest) s =
      c.convert config credentials s := by
  rw [firstOf]
  rcases hMade : c.convert config credentials s with ⟨outcome, s'⟩
  rcases outcome with e | _ | a
  · rfl
  · simp [hMade] at h
  · rfl

/- Some converter settles a configuration, or all decline. -/
theorem declined_cases
    (credentials : CredentialResolver σ)
    (config : BackendConfig)
    (converters : List (Converter A σ))
    (s : σ) :
    (∃ before c after s',
        converters = before ++ c :: after ∧
        Declined credentials config before s s' ∧
        (c.convert config credentials s').1 ≠ .ok none) ∨
      ∃ s', Declined credentials config converters s s' := by
  induction converters generalizing s with
  | nil => exact Or.inr ⟨s, .nobody s⟩
  | cons c rest ih =>
      rcases hMade : c.convert config credentials s with
        ⟨outcome, s'⟩
      by_cases hDeclines : outcome = .ok none
      · subst hDeclines
        rcases ih s' with
          ⟨before, d, after, s'', hRest, hBefore, hSettles⟩ |
            ⟨s'', hNobody⟩
        · exact
            Or.inl
              ⟨c :: before, d, after, s'', by rw [hRest]; rfl,
                .next hMade hBefore, hSettles⟩
        · exact Or.inr ⟨s'', .next hMade hNobody⟩
      · exact
          Or.inl
            ⟨[], c, rest, s, rfl, .nobody s, by
              rw [hMade]
              exact hDeclines⟩

/- A chain makes of a configuration what it should. -/
theorem makes_convert
    (chain : ConverterChain A σ)
    (config : BackendConfig)
    (s : σ) :
    chain.Makes config s (chain.convert config s) := by
  cases hWanted : config.adapter with
  | none =>
      rw [chain.convert_of_free hWanted]
      rcases declined_cases chain.credentials config
          chain.converters s with
        ⟨before, c, after, s', hChain, hBefore, hSettles⟩ |
          ⟨s', hNobody⟩
      · rw [hChain, firstOf_of_declined hBefore,
          firstOf_of_settled hSettles]
        exact .first hWanted hChain hBefore hSettles
      · have hFirst := firstOf_of_declined hNobody []
        rw [List.append_nil] at hFirst
        rw [hFirst]
        exact .unclaimed hWanted hNobody
  | some wanted =>
      cases hFind :
          chain.converters.find? (fun c => c.name == wanted) with
      | none =>
          rw [chain.convert_of_unknown hWanted hFind]
          exact .unknown hWanted (by simpa using hFind)
      | some c =>
          rw [chain.convert_of_found hWanted hFind]
          rcases List.find?_eq_some_iff_append.mp hFind with
            ⟨hName, before, after, hChain, hBefore⟩
          exact
            .wanted hWanted hChain (by simpa using hBefore)
              (by simpa using hName)

/- Nothing else should come of a configuration. -/
theorem Makes.unique
    {chain : ConverterChain A σ}
    {config : BackendConfig}
    {s : σ}
    {x : Except Error (Option A) × σ}
    (h : chain.Makes config s x) :
    chain.convert config s = x := by
  cases h with
  | @wanted wanted before after c hWanted hChain hBefore hName =>
      apply chain.convert_of_found hWanted
      apply List.find?_eq_some_iff_append.mpr
      refine ⟨by simpa using hName, before, after, hChain, ?_⟩
      simpa using hBefore
  | @unknown wanted hWanted hNobody =>
      apply chain.convert_of_unknown hWanted
      exact List.find?_eq_none.mpr (by simpa using hNobody)
  | @first before after c s' hFree hChain hBefore hSettles =>
      rw [chain.convert_of_free hFree, hChain,
        firstOf_of_declined hBefore, firstOf_of_settled hSettles]
  | @unclaimed s' hFree hNobody =>
      have hFirst := firstOf_of_declined hNobody []
      rw [List.append_nil] at hFirst
      rw [chain.convert_of_free hFree, hFirst]
      rfl

/- What a chain makes of a configuration is what it should. -/
theorem makes_iff
    (chain : ConverterChain A σ)
    (config : BackendConfig)
    (s : σ)
    (x : Except Error (Option A) × σ) :
    chain.Makes config s x ↔ chain.convert config s = x := by
  constructor
  · exact Makes.unique
  · intro h
    exact h ▸ chain.makes_convert config s

end ConverterChain

end StorageRouting

------------------------------------------------------------
-- Attempts
------------------------------------------------------------

namespace StorageRouting

namespace Registry

variable {A σ : Type}

/- What a registry is left with; unclaimed means failed. -/
def claimed
    (config : BackendConfig) :
    Except Error (Option A) → Except Error A
| .ok (some a) => .ok a
| .ok none => .error (unclaimed config)
| .error e => .error e

/-
  Each configuration in its turn with what came of it, and the
  state in the end.
-/
def attempts
    (chain : ConverterChain A σ) :
    List BackendConfig → σ →
      List (BackendConfig × Except Error A) × σ
| [], s => ([], s)
| config :: rest, s =>
    let (outcome, s) := chain.convert config s
    let (more, s) := attempts chain rest s
    ((config, claimed config outcome) :: more, s)

/- The backends that were built, by name, in order. -/
def successes
    (tried : List (BackendConfig × Except Error A)) :
    List (String × A) :=
  tried.filterMap
    (fun t => t.2.toOption.map (fun a => (t.1.name, a)))

/- The first attempt and the rest, each with its successes. -/
theorem successes_cons
    (t : BackendConfig × Except Error A)
    (rest : List (BackendConfig × Except Error A)) :
    successes (t :: rest) = successes [t] ++ successes rest := by
  unfold successes
  rw [← List.filterMap_append, List.singleton_append]

/-
  A failure that stops a population: that of the primary
  backend of a strict registry.
-/
def Fatal
    (r : Registry A)
    (t : BackendConfig × Except Error A) : Prop :=
  r.strict = true ∧ t.1.name = r.primary ∧ ∃ e, t.2 = .error e

/- Building is converting, and being claimed. -/
theorem build_eq
    (chain : ConverterChain A σ)
    (config : BackendConfig)
    (s : σ) :
    build chain config s =
      (claimed config (chain.convert config s).1,
        (chain.convert config s).2) := by
  unfold build
  rcases chain.convert config s with ⟨outcome, s'⟩
  rcases outcome with e | _ | a <;> rfl

/-
  The configurations were handled in order: up to the first
  fatal failure, which is the answer, or all of them without
  one.  What was built is registered, and nothing else was
  asked of the converters.
-/
def Handled
    (chain : ConverterChain A σ)
    (configs : List BackendConfig)
    (r : Registry A)
    (s : σ)
    (c : Changed A σ (Except Error Unit)) : Prop :=
  ∃ handled later,
    configs = handled ++ later ∧
      c.state = (attempts chain handled s).2 ∧
      c.registry =
        (registerAll (successes (attempts chain handled s).1) r).2 ∧
      ((∃ before config e,
          (attempts chain handled s).1 =
            before ++ [(config, .error e)] ∧
          (∀ t ∈ before, ¬ r.Fatal t) ∧
          r.Fatal (config, .error e) ∧
          c.answer = .error e) ∨
        (later = [] ∧
          (∀ t ∈ (attempts chain handled s).1, ¬ r.Fatal t) ∧
          c.answer = .ok ()))

/- One more configuration in front, with no fatal failure. -/
theorem Handled.cons
    {chain : ConverterChain A σ}
    {config : BackendConfig}
    {configs : List BackendConfig}
    {r r' : Registry A}
    {s s' : σ}
    {outcome : Except Error (Option A)}
    {c : Changed A σ (Except Error Unit)}
    (hMade : chain.convert config s = (outcome, s'))
    (hPasses : ¬ r.Fatal (config, claimed config outcome))
    (hTaken :
      r' =
        (registerAll
          (successes [(config, claimed config outcome)]) r).2)
    (h : Handled chain configs r' s' c) :
    Handled chain (config :: configs) r s c := by
  have hFatal : ∀ t, r'.Fatal t ↔ r.Fatal t := by
    intro t
    simp [hTaken, Fatal]
  have hAttempts :
      ∀ handled,
        attempts chain (config :: handled) s =
          ((config, claimed config outcome) ::
              (attempts chain handled s').1,
            (attempts chain handled s').2) := by
    intro handled
    simp [attempts, hMade]
  rcases h with
    ⟨handled, later, hConfigs, hState, hRegistry, hEnds⟩
  refine ⟨config :: handled, later, ?_, ?_, ?_, ?_⟩
  · rw [hConfigs, List.cons_append]
  · rw [hState, hAttempts]
  · rw [hRegistry, hTaken, ← registerAll_append, hAttempts,
      ← successes_cons]
  · rw [hAttempts]
    rcases hEnds with
      ⟨before, last, e, hTried, hBefore, hLast, hAnswer⟩ |
        ⟨hLater, hNone, hAnswer⟩
    · left
      refine
        ⟨(config, claimed config outcome) :: before, last, e, ?_,
          ?_, (hFatal _).mp hLast, hAnswer⟩
      · rw [hTried, List.cons_append]
      · intro t ht
        rcases List.mem_cons.mp ht with rfl | ht
        · exact hPasses
        · exact fun hBad => hBefore t ht ((hFatal t).mpr hBad)
    · right
      refine ⟨hLater, ?_, hAnswer⟩
      intro t ht
      rcases List.mem_cons.mp ht with rfl | ht
      · exact hPasses
      · exact fun hBad => hNone t ht ((hFatal t).mpr hBad)

/- Adding configurations handles them in order. -/
theorem addAll_handled
    (chain : ConverterChain A σ)
    (configs : List BackendConfig)
    (r : Registry A)
    (s : σ) :
    Handled chain configs r s (addAll chain configs r s) := by
  induction configs generalizing r s with
  | nil =>
      exact
        ⟨[], [], rfl, rfl, rfl,
          Or.inr ⟨rfl, by simp [attempts], rfl⟩⟩
  | cons config rest ih =>
      rcases hMade : chain.convert config s with ⟨outcome, s'⟩
      have hClaimed :
          build chain config s = (claimed config outcome, s') := by
        rw [build_eq, hMade]
      rcases addAll_cons_cases chain config rest r s with
        ⟨a, s'', hBuild, hAll, _⟩ |
          ⟨e, s'', hBuild, hFatal, hAll, _⟩ |
          ⟨e, s'', hBuild, hPasses, hAll, _⟩
      · rcases Prod.mk.inj (hClaimed.symm.trans hBuild) with
          ⟨hOk, rfl⟩
        rw [hAll]
        refine Handled.cons hMade ?_ ?_ (ih _ s')
        · rintro ⟨_, _, e, hError⟩
          rw [hOk] at hError
          cases hError
        · rw [hOk]
          rfl
      · rcases Prod.mk.inj (hClaimed.symm.trans hBuild) with
          ⟨hError, rfl⟩
        rw [hAll]
        refine ⟨[config], rest, rfl, ?_, ?_, Or.inl ?_⟩
        · simp [attempts, hMade]
        · simp [attempts, hMade, hError, successes, registerAll,
            Except.toOption]
        · refine
            ⟨[], config, e, ?_, by simp,
              ⟨hFatal.1, hFatal.2, e, rfl⟩, rfl⟩
          simp [attempts, hMade, hError]
      · rcases Prod.mk.inj (hClaimed.symm.trans hBuild) with
          ⟨hError, rfl⟩
        rw [hAll]
        refine Handled.cons hMade ?_ ?_ (ih r s')
        · rintro ⟨hStrict, hName, _⟩
          exact hPasses ⟨hStrict, hName⟩
        · rw [hError]
          rfl

end Registry

end StorageRouting

------------------------------------------------------------
-- Taking Over
------------------------------------------------------------

namespace StorageRouting

namespace Registry

variable {A σ : Type}

/- The names that registrations bring in, each once, in order. -/
def newcomers
    (r : Registry A)
    (named : List (String × A)) : List String :=
  ((named.map Prod.fst).filter
    (fun name => !r.contains name)).eraseDups

/-
  A registry took over what was built: the first backend of
  each name that was free, with a notice for each such name.
-/
structure TakesOver
    (named : List (String × A))
    (r r' : Registry A) : Prop where
  primary : r'.primary = r.primary
  strict : r'.strict = r.strict
  lookup :
    ∀ name, r'.get? name = (r.get? name).or (named.lookup name)
  events :
    r'.events =
      r.events.map
        (· ++ (newcomers r named).map (fun name => ⟨name, .added⟩))

/- A name that is taken does not come in. -/
theorem newcomers_of_taken
    {r : Registry A}
    {name : String}
    {a b : A}
    (hTaken : r.get? name = some b)
    (rest : List (String × A)) :
    newcomers r ((name, a) :: rest) = newcomers r rest := by
  have hContains : r.contains name = true := by
    rw [contains_eq, hTaken]
    rfl
  simp [newcomers, hContains]

/- A name that is free comes in, and is taken from then on. -/
theorem newcomers_of_free
    {r : Registry A}
    {name : String}
    (a : A)
    (hFree : r.get? name = none)
    (rest : List (String × A)) :
    newcomers r ((name, a) :: rest) =
      name :: newcomers (r.register name a).2 rest := by
  have hContains : r.contains name = false := by
    rw [contains_eq, hFree]
    rfl
  have hLater :
      ∀ other,
        (r.register name a).2.contains other =
          (r.contains other || other == name) := by
    intro other
    rw [contains_eq, contains_eq, get?_register]
    by_cases hSame : other = name
    · simp [hSame]
    · simp [hSame]
  unfold newcomers
  rw [List.map_cons, List.filter_cons_of_pos (by simp [hContains]),
    List.eraseDups_cons, List.filter_filter]
  congr 3
  funext other
  rw [hLater, Bool.not_or, Bool.and_comm]

/- Registrations take over what is free. -/
theorem registerAll_takesOver
    (named : List (String × A))
    (r : Registry A) :
    TakesOver named r (registerAll named r).2 where
  primary := registerAll_primary named r
  strict := registerAll_strict named r
  lookup := get?_registerAll named r
  events := by
    induction named generalizing r with
    | nil =>
        cases hEvents : r.events <;>
          simp [registerAll, newcomers, hEvents]
    | cons e rest ih =>
        rcases e with ⟨name, a⟩
        have hRest := ih (r.register name a).2
        rcases r.register_cases name a with
          ⟨⟨b, hTaken⟩, hEq⟩ | ⟨hFree, hEq⟩
        · rw [newcomers_of_taken hTaken]
          simpa [registerAll, hEq] using hRest
        · rw [newcomers_of_free a hFree]
          have hEvents :
              (r.register name a).2.events =
                r.events.map (· ++ [⟨name, .added⟩]) := by
            rw [hEq]
            rfl
          rw [hEvents] at hRest
          simpa [registerAll, Function.comp_def] using hRest

end Registry

end StorageRouting

------------------------------------------------------------
-- Incomplete Configurations
------------------------------------------------------------

namespace StorageRouting

/- The converters of the two kinds of backends. -/
def Converter.IsUsual
    (c : Converter (Adapter Fleet) Fleet) : Prop :=
  c = .memory ∨ ∃ around, c = .s3 around

/-
  A usual converter declines a configuration of another kind,
  and fails on an incomplete one of its own kind before it does
  anything.
-/
theorem Converter.IsUsual.convert_incomplete
    {c : Converter (Adapter Fleet) Fleet}
    (h : c.IsUsual)
    {config : BackendConfig}
    {field : RequiredField}
    (hMissing : config.missingField? = some field)
    (credentials : CredentialResolver Fleet)
    (f : Fleet) :
    c.convert config credentials f =
      (if config.kind = c.name then
          .error (.configurationIncomplete config.name field)
        else .ok none, f) := by
  rcases h with rfl | ⟨around, rfl⟩
  · by_cases hKind : config.kind = BackendConfig.memoryKind
    · simp [Converter.memory, hKind, Fleet.openMemory,
        MemoryStore.ofConfig, BackendConfig.preCheck, hMissing]
    · simp [Converter.memory, hKind]
      rfl
  · by_cases hKind : config.kind = BackendConfig.s3Kind
    · simp [Converter.s3, hKind, S3Connection.connect,
        S3Connection.check, BackendConfig.preCheck, hMissing]
    · simp [Converter.s3, hKind]
      rfl

namespace ConverterChain

/- The search among usual converters, when a field is missing. -/
theorem firstOf_incomplete
    {converters : List (Converter (Adapter Fleet) Fleet)}
    (hUsual : ∀ c ∈ converters, c.IsUsual)
    {config : BackendConfig}
    {field : RequiredField}
    (hMissing : config.missingField? = some field)
    (credentials : CredentialResolver Fleet)
    (f : Fleet) :
    firstOf credentials config converters f =
      (if ∃ c ∈ converters, config.kind = c.name then
          .error (.configurationIncomplete config.name field)
        else .ok none, f) := by
  induction converters with
  | nil =>
      simp [firstOf]
  | cons c rest ih =>
      have hRest := ih (fun d hd => hUsual d (by simp [hd]))
      rw [firstOf,
        (hUsual c (by simp)).convert_incomplete hMissing]
      by_cases hKind : config.kind = c.name
      · simp [hKind]
      · simpa [hKind] using hRest

/-
  Usual converters never build an incomplete configuration, and
  leave the state alone.  If one of them serves its kind and no
  other is asked for, the missing field is named.
-/
theorem convert_incomplete
    {chain : ConverterChain (Adapter Fleet) Fleet}
    (hUsual : ∀ c ∈ chain.converters, c.IsUsual)
    {config : BackendConfig}
    {field : RequiredField}
    (hMissing : config.missingField? = some field)
    (f : Fleet) :
    ∃ outcome,
      chain.convert config f = (outcome, f) ∧
        (∀ a, outcome ≠ .ok (some a)) ∧
        (config.adapter = none →
          (∃ c ∈ chain.converters, config.kind = c.name) →
            outcome =
              .error
                (.configurationIncomplete config.name field)) := by
  cases hWanted : config.adapter with
  | none =>
      rw [chain.convert_of_free hWanted,
        firstOf_incomplete hUsual hMissing]
      refine ⟨_, rfl, ?_, ?_⟩
      · intro a
        split <;> simp
      · intro _ hServed
        rw [if_pos hServed]
  | some wanted =>
      cases hFind :
          chain.converters.find? (fun c => c.name == wanted) with
      | none =>
          rw [chain.convert_of_unknown hWanted hFind]
          exact ⟨_, rfl, by simp, by simp⟩
      | some c =>
          rw [chain.convert_of_found hWanted hFind,
            (hUsual c
              (List.mem_of_find?_eq_some hFind)).convert_incomplete
                hMissing]
          refine ⟨_, rfl, ?_, by simp⟩
          intro a
          split <;> simp

end ConverterChain

end StorageRouting

------------------------------------------------------------
-- Populations
------------------------------------------------------------

namespace StorageRouting

namespace Registry

variable {A σ : Type}

/-
  A population asks for each configuration in its turn what the
  converters make of it: the one that is named, or the first
  that does not decline.  It stops at the first failure that is
  fatal, which is then its answer, or goes on to the end, where
  a strict registry must have its primary backend.  Either way
  it took over the first backend that was built for each free
  name, told of each of these names once, and asked for nothing
  more.  The usual converters build nothing of an incomplete
  configuration.
-/
theorem populate_takes_first_built
    (chain : ConverterChain A σ)
    (configs : List BackendConfig)
    (r : Registry A)
    (s : σ) :
    let c := populate chain configs r s
    (∀ config s x,
        chain.Makes config s x ↔ chain.convert config s = x) ∧
      (∃ handled later,
        configs = handled ++ later ∧
        c.state = (attempts chain handled s).2 ∧
        TakesOver (successes (attempts chain handled s).1) r
          c.registry ∧
        ((∃ before config e,
            (attempts chain handled s).1 =
              before ++ [(config, .error e)] ∧
            (∀ t ∈ before, ¬ r.Fatal t) ∧
            r.Fatal (config, .error e) ∧
            c.answer = .error e) ∨
          (later = [] ∧
            (∀ t ∈ (attempts chain handled s).1, ¬ r.Fatal t) ∧
            c.answer =
              if r.strict = true ∧
                  c.registry.get? r.primary = none
              then .error (missingPrimary r.primary)
              else .ok ()))) ∧
      ∀ (usual : ConverterChain (Adapter Fleet) Fleet),
        (∀ d ∈ usual.converters, d.IsUsual) →
        ∀ (config : BackendConfig) (field : RequiredField) f,
          config.missingField? = some field →
          ∃ outcome,
            usual.convert config f = (outcome, f) ∧
              (∀ a, outcome ≠ .ok (some a)) ∧
              (config.adapter = none →
                (∃ d ∈ usual.converters, config.kind = d.name) →
                  outcome =
                    .error
                      (.configurationIncomplete config.name
                        field)) := by
  intro c
  refine ⟨chain.makes_iff, ?_, ?_⟩
  · rcases addAll_handled chain configs r s with
      ⟨handled, later, hConfigs, hState, hRegistry, hEnds⟩
    rcases populate_left chain configs r s with
      ⟨hLeft, hLeftState⟩
    have hTakes :
        TakesOver (successes (attempts chain handled s).1) r
          c.registry := by
      have hAll :=
        registerAll_takesOver
          (successes (attempts chain handled s).1) r
      rwa [← hRegistry, ← hLeft] at hAll
    refine
      ⟨handled, later, hConfigs, hLeftState.trans hState, hTakes,
        ?_⟩
    rcases hEnds with
      ⟨before, config, e, hTried, hBefore, hFatal, hAnswer⟩ |
        ⟨hLater, hNone, hAnswer⟩
    · left
      exact
        ⟨before, config, e, hTried, hBefore, hFatal,
          populate_of_error hAnswer⟩
    · right
      refine ⟨hLater, hNone, ?_⟩
      have hEnd := populate_of_ok hAnswer
      dsimp only at hEnd
      rwa [hTakes.strict, hTakes.primary] at hEnd
  · intro usual hUsual config field f hMissing
    exact usual.convert_incomplete hUsual hMissing f

/- Numbers its backends, and is particular about them. -/
def particular : ConverterChain Nat Nat where
  converters :=
    [{ name := "particular"
       convert := fun config _ s =>
         if config.endpoint = "" then
           (.error (.config "no endpoint"), s)
         else if config.kind = "odd" then (.ok none, s)
         else (.ok (some s), s + 1) }]
  credentials := Custody.numbering.credentials

/-
  Configurations of a taken name, of one name twice, of a kind
  that nobody claims, of the primary backend without an
  endpoint, and of one more.
-/
def mixedConfigs : List BackendConfig :=
  [BackendConfig.new "a" "e" "" "", .new "b" "e" "" "",
    .new "b" "e" "" "",
    { BackendConfig.new "x" "e" "" "" with kind := "odd" },
    .new "p" "" "" "", .new "c" "e" "" ""]

/- A strict registry in which one name is taken. -/
def takenRegistry : Registry Nat :=
  ((new "p" true).listening.register "a" 70).2

/-
  Of the mixed configurations the first "b" is taken over, and
  the population stops at the primary backend.  Two usual
  converters do not build a configuration without keys.
-/
theorem mixedConfigs_take_first_built :
    let c := populate particular mixedConfigs takenRegistry 0
    let usual : ConverterChain (Adapter Fleet) Fleet :=
      { converters := [.memory, .s3 Fleet.surroundings]
        credentials := .rsa none Fleet.vaultSlot }
    c.answer = .error (.config "no endpoint") ∧
      c.state = 3 ∧
      ["a", "b", "c", "p"].map c.registry.get? =
        [some 70, some 1, none, none] ∧
      c.registry.events = some [⟨"a", .added⟩, ⟨"b", .added⟩] ∧
      (∃ handled later,
        mixedConfigs = handled ++ later ∧
          TakesOver (successes (attempts particular handled 0).1)
            takenRegistry c.registry) ∧
      ∀ now,
        usual.convert (BackendConfig.new "m" "e" "" "")
            (Fleet.start now) =
          (.error (.configurationIncomplete "m" .accessKey),
            Fleet.start now) := by
  intro c usual
  rcases populate_takes_first_built particular mixedConfigs
      takenRegistry 0 with
    ⟨_, ⟨handled, later, hConfigs, _, hTakes, _⟩, hUsual⟩
  refine
    ⟨by decide, by decide, by decide, by decide,
      ⟨handled, later, hConfigs, hTakes⟩, ?_⟩
  intro now
  have hBoth : ∀ d ∈ usual.converters, d.IsUsual := by
    intro d hd
    simp only [usual, List.mem_cons, List.not_mem_nil,
      or_false] at hd
    rcases hd with rfl | rfl
    · exact Or.inl rfl
    · exact Or.inr ⟨_, rfl⟩
  rcases hUsual usual hBoth (BackendConfig.new "m" "e" "" "")
      .accessKey (Fleet.start now) (by decide) with
    ⟨outcome, hConvert, _, hNamed⟩
  rw [hConvert, hNamed rfl ⟨.s3 Fleet.surroundings, ?_, rfl⟩]
  · rfl
  · simp [usual]

end Registry

end StorageRouting
