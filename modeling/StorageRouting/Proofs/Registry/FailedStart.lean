import StorageRouting.Proofs.Backend.ClientCall
import StorageRouting.Proofs.Registry.Population

/-
  A start that fails: the backends that were built until then
  are given up as they are, and none of them is closed.

  Key definitions include:
    * `Converter.Opens`
    * `Fleet.HoldsOpen`

  Main statements:
    * `ConverterChain.Makes.opens`
    * `Registry.addAll_leaves_open`
    * `Registry.failed_start_leaves_open`
-/

------------------------------------------------------------
-- Opening
------------------------------------------------------------

namespace StorageRouting

variable {A σ : Type}

/- A converter opens what it builds, and closes nothing. -/
structure Converter.Opens
    (isOpen : A → σ → Prop)
    (c : Converter A σ) : Prop where
  keeps :
    ∀ config credentials s a, isOpen a s →
      isOpen a (c.convert config credentials s).2
  opens :
    ∀ config credentials s a,
      (c.convert config credentials s).1 = .ok (some a) →
        isOpen a (c.convert config credentials s).2

namespace ConverterChain

variable {isOpen : A → σ → Prop}

/- Converters that decline close nothing. -/
theorem Declined.keeps
    {credentials : CredentialResolver σ}
    {config : BackendConfig}
    {converters : List (Converter A σ)}
    {s s' : σ}
    (h : Declined credentials config converters s s')
    (hOpens : ∀ c ∈ converters, c.Opens isOpen)
    {a : A}
    (hOpen : isOpen a s) : isOpen a s' := by
  induction h with
  | nobody s => exact hOpen
  | @next c rest s s' s'' hDeclines hRest ih =>
      apply ih (fun d hd => hOpens d (List.mem_cons_of_mem c hd))
      have hKept :=
        (hOpens c List.mem_cons_self).keeps config credentials s a
          hOpen
      rwa [hDeclines] at hKept

/- What is made of a configuration closes nothing. -/
theorem Makes.keeps
    {chain : ConverterChain A σ}
    (hOpens : ∀ c ∈ chain.converters, c.Opens isOpen)
    {config : BackendConfig}
    {s : σ}
    {x : Except Error (Option A) × σ}
    (h : chain.Makes config s x)
    {a : A}
    (hOpen : isOpen a s) : isOpen a x.2 := by
  cases h with
  | wanted hWanted hChain hBefore hName =>
      exact (hOpens _ (by simp [hChain])).keeps _ _ _ a hOpen
  | unknown hWanted hNobody => exact hOpen
  | first hFree hChain hBefore hSettles =>
      have hReached :=
        hBefore.keeps
          (fun d hd => hOpens d (by simp [hChain, hd])) hOpen
      exact (hOpens _ (by simp [hChain])).keeps _ _ _ a hReached
  | unclaimed hFree hNobody => exact hNobody.keeps hOpens hOpen

/- A backend that is made of a configuration is open. -/
theorem Makes.opens
    {chain : ConverterChain A σ}
    (hOpens : ∀ c ∈ chain.converters, c.Opens isOpen)
    {config : BackendConfig}
    {s : σ}
    {x : Except Error (Option A) × σ}
    (h : chain.Makes config s x)
    {a : A}
    (hMade : x.1 = .ok (some a)) : isOpen a x.2 := by
  cases h with
  | wanted hWanted hChain hBefore hName =>
      exact (hOpens _ (by simp [hChain])).opens _ _ _ a hMade
  | unknown hWanted hNobody => cases hMade
  | first hFree hChain hBefore hSettles =>
      exact (hOpens _ (by simp [hChain])).opens _ _ _ a hMade
  | unclaimed hFree hNobody => cases hMade

end ConverterChain

end StorageRouting

------------------------------------------------------------
-- Starting
------------------------------------------------------------

namespace StorageRouting

namespace Registry

variable {A σ : Type}
variable {isOpen : A → σ → Prop}

/- Building closes nothing, and what it builds is open. -/
theorem build_opens
    {chain : ConverterChain A σ}
    (hOpens : ∀ c ∈ chain.converters, c.Opens isOpen)
    {config : BackendConfig}
    {s s' : σ}
    {outcome : Except Error A}
    (h : build chain config s = (outcome, s')) :
    (∀ a, isOpen a s → isOpen a s') ∧
      ∀ a, outcome = .ok a → isOpen a s' := by
  have hMakes := chain.makes_convert config s
  rw [build_eq] at h
  rcases hMade : chain.convert config s with ⟨made, s''⟩
  rw [hMade] at h hMakes
  cases h
  constructor
  · intro a hOpen
    exact hMakes.keeps hOpens hOpen
  · intro a hBuilt
    apply hMakes.opens hOpens
    rcases made with e | _ | b
    · cases hBuilt
    · cases hBuilt
    · cases hBuilt
      rfl

/- Adding configurations leaves all that it builds open. -/
theorem addAll_leaves_open
    {chain : ConverterChain A σ}
    (hOpens : ∀ c ∈ chain.converters, c.Opens isOpen)
    (configs : List BackendConfig)
    (r : Registry A)
    (s : σ) :
    (∀ a, isOpen a s →
        isOpen a (addAll chain configs r s).state) ∧
      ∀ named ∈ built chain configs r s,
        isOpen named.2 (addAll chain configs r s).state := by
  induction configs generalizing r s with
  | nil => exact ⟨fun a hOpen => hOpen, by simp [built]⟩
  | cons config rest ih =>
      rcases addAll_cons_cases chain config rest r s with
        ⟨a, s', hBuild, hAll, hBuilt⟩ |
          ⟨e, s', hBuild, _, hAll, hBuilt⟩ |
          ⟨e, s', hBuild, _, hAll, hBuilt⟩
      · rcases build_opens hOpens hBuild with ⟨hKeeps, hNew⟩
        rcases ih (r.register config.name a).2 s' with
          ⟨hLater, hRest⟩
        rw [hAll, hBuilt]
        constructor
        · intro b hOpen
          exact hLater b (hKeeps b hOpen)
        · intro named hNamed
          rcases List.mem_cons.mp hNamed with rfl | hNamed
          · exact hLater a (hNew a rfl)
          · exact hRest named hNamed
      · rw [hAll, hBuilt]
        exact ⟨(build_opens hOpens hBuild).1, by simp⟩
      · rcases ih r s' with ⟨hLater, hRest⟩
        rw [hAll, hBuilt]
        constructor
        · intro b hOpen
          exact hLater b ((build_opens hOpens hBuild).1 b hOpen)
        · exact hRest

/- Starting leaves the state that adding backends leaves. -/
theorem ofSettings_state
    (chain : ConverterChain A σ)
    (settings : Settings)
    (s : σ) :
    (ofSettings chain settings s).2 =
      (addAll chain settings.backends.values
        (new settings.primary settings.strict) s).state := by
  rw [← (populate_left chain settings.backends.values _ s).2]
  unfold ofSettings
  dsimp only
  split <;> rfl

/-
  When converters open what they build and close nothing, a
  start that fails leaves every backend open that was built
  until then: nothing is closed on the way out.
-/
theorem failed_start_leaves_open
    {chain : ConverterChain A σ}
    (hOpens : ∀ c ∈ chain.converters, c.Opens isOpen)
    {settings : Settings}
    {s s' : σ}
    {e : Error}
    (h : ofSettings chain settings s = (.error e, s')) :
    ∀ named ∈
        built chain settings.backends.values
          (new settings.primary settings.strict) s,
      isOpen named.2 s' := by
  have hState :
      s' =
        (addAll chain settings.backends.values
          (new settings.primary settings.strict) s).state := by
    rw [← ofSettings_state, h]
  rw [hState]
  exact (addAll_leaves_open hOpens _ _ s).2

end Registry

end StorageRouting

------------------------------------------------------------
-- A Store That Is Given Up
------------------------------------------------------------

namespace StorageRouting

/- An adapter to a store that is there and not closed. -/
def Fleet.HoldsOpen
    (a : Adapter Fleet)
    (f : Fleet) : Prop :=
  ∃ i m, a = Fleet.memoryAt i a.config ∧
    f.stores[i]? = some m ∧ m.closed = false

/- A new store is open. -/
theorem MemoryStore.ofConfig_open
    {config : BackendConfig}
    {m : MemoryStore}
    (h : MemoryStore.ofConfig config = .ok m) :
    m.closed = false := by
  unfold ofConfig at h
  split at h
  · cases h
  · split at h <;> cases h <;> rfl

/- What the converter of stores in memory does. -/
theorem Converter.memory_cases
    (config : BackendConfig)
    (credentials : CredentialResolver Fleet)
    (f : Fleet) :
    (∃ outcome,
        Converter.memory.convert config credentials f =
          (outcome, f) ∧
        ∀ a, outcome ≠ .ok (some a)) ∨
      ∃ m, m.closed = false ∧
        Converter.memory.convert config credentials f =
          (.ok (some (Fleet.memoryAt f.stores.length config)),
            { f with stores := f.stores ++ [m] }) := by
  by_cases hKind : config.kind = BackendConfig.memoryKind
  · cases hStore : MemoryStore.ofConfig config with
    | error e =>
        left
        refine ⟨.error e, ?_, by simp⟩
        simp [Converter.memory, hKind, Fleet.openMemory, hStore]
    | ok m =>
        right
        refine ⟨m, MemoryStore.ofConfig_open hStore, ?_⟩
        simp [Converter.memory, hKind, Fleet.openMemory, hStore]
        rfl
  · left
    refine ⟨.ok none, ?_, by simp⟩
    simp [Converter.memory, hKind]
    rfl

/- The converter of stores in memory opens what it builds. -/
theorem Converter.memory_opens :
    Converter.memory.Opens Fleet.HoldsOpen where
  keeps config credentials f a hOpen := by
    rcases Converter.memory_cases config credentials f with
      ⟨outcome, hEq, _⟩ | ⟨m, _, hEq⟩
    · rw [hEq]
      exact hOpen
    · rw [hEq]
      rcases hOpen with ⟨i, m', hAt, hStore, hFresh⟩
      refine ⟨i, m', hAt, ?_, hFresh⟩
      have hLength : i < f.stores.length :=
        (List.getElem?_eq_some_iff.mp hStore).1
      rw [List.getElem?_append_left hLength]
      exact hStore
  opens config credentials f a hMade := by
    rcases Converter.memory_cases config credentials f with
      ⟨outcome, hEq, hNothing⟩ | ⟨m, hFresh, hEq⟩
    · rw [hEq] at hMade
      exact absurd hMade (hNothing a)
    · rw [hEq] at hMade ⊢
      cases hMade
      exact ⟨f.stores.length, m, rfl, by simp, hFresh⟩

namespace Registry

/- Builds stores in memory, and nothing else. -/
def memoryChain : ConverterChain (Adapter Fleet) Fleet :=
  { converters := [.memory]
    credentials := .rsa none Fleet.vaultSlot }

/- A backend in memory at an endpoint. -/
def memoryConfig (name endpoint : String) : BackendConfig :=
  { BackendConfig.new name endpoint "ak" "sk" with
    kind := BackendConfig.memoryKind }

/- Strict settings whose primary backend has no endpoint. -/
def brokenSettings : Settings :=
  { Settings.blank with
    primary := "s3b", strict := true
    backends :=
      Dictionary.ofList
        [("s3a", memoryConfig "s3a" "memory://local"),
          ("s3b", memoryConfig "s3b" "")] }

/- What becomes of the broken settings. -/
def brokenStart : Except Error (Registry (Adapter Fleet)) × Fleet :=
  ofSettings memoryChain brokenSettings (Fleet.start default)

/-
  The broken settings fail to start, and the one backend that
  was built until then is left open.
-/
theorem brokenStart_leaves_open :
    ∃ a e,
      built memoryChain brokenSettings.backends.values
          (new "s3b" true) (Fleet.start default) =
        [("s3a", a)] ∧
      brokenStart = (.error e, brokenStart.2) ∧
      e = .configurationIncomplete "s3b" .endpoint ∧
      a.name = "s3a" ∧
      Fleet.HoldsOpen a brokenStart.2 := by
  have hFails :
      brokenStart =
        (.error (.configurationIncomplete "s3b" .endpoint),
          brokenStart.2) :=
    rfl
  have hOpens : ∀ c ∈ memoryChain.converters,
      c.Opens Fleet.HoldsOpen := by
    intro c hc
    rw [List.mem_singleton.mp hc]
    exact Converter.memory_opens
  have hOpen := failed_start_leaves_open hOpens hFails
  refine
    ⟨Fleet.memoryAt 0 (memoryConfig "s3a" "memory://local"), _,
      rfl, hFails, rfl, rfl, ?_⟩
  exact hOpen ("s3a", _) List.mem_cons_self

/-
  It is not so that after every start that fails the stores
  that were built refuse to be used, as closed ones do: that of
  the broken settings still answers.
-/
theorem not_closed_after_failed_start :
    ¬ ∀ (settings : Settings) (f f' : Fleet) (e : Error),
        ofSettings memoryChain settings f = (.error e, f') →
          ∀ named ∈
              built memoryChain settings.backends.values
                (new settings.primary settings.strict) f,
            (named.2.probe f').1 ≠ some (.ok ()) := by
  intro hClosed
  have hFails :
      ofSettings memoryChain brokenSettings
          (Fleet.start default) =
        (.error (.configurationIncomplete "s3b" .endpoint),
          brokenStart.2) :=
    rfl
  exact
    hClosed brokenSettings _ _ _ hFails
      ("s3a",
        Fleet.memoryAt 0 (memoryConfig "s3a" "memory://local"))
      List.mem_cons_self rfl

end Registry

end StorageRouting
