import StorageRouting.Credential.Resolver
import StorageRouting.Registry.Basic

/-
  Converters, which build backends from configurations, and
  registries built from settings.

  Key definitions include:
    * `Converter`
    * `ConverterChain`
    * `ConverterChain.convert`
    * `Registry.populate`
    * `Registry.ofSettings`
-/

------------------------------------------------------------
-- Converters
------------------------------------------------------------

namespace StorageRouting

/-
  A converter builds a backend from a configuration, declines
  it, or fails.
-/
structure Converter (A σ : Type) where
  name : String
  convert :
    BackendConfig → CredentialResolver σ → Action σ (Option A)

/- Converters in order, and the resolver that they share. -/
structure ConverterChain (A σ : Type) where
  converters : List (Converter A σ)
  credentials : CredentialResolver σ

namespace ConverterChain

variable {A σ : Type}

/- The failure of a backend that asks for another converter. -/
def unknownAdapter
    (backend wanted : String) : Error :=
  .config
    ("Backend '" ++ backend ++ "' requires unknown adapter '" ++
      wanted ++ "'")

/-
  The backend of the first converter that does not decline; a
  failure ends the search.
-/
def firstOf
    (credentials : CredentialResolver σ)
    (config : BackendConfig) :
    List (Converter A σ) → Action σ (Option A)
| [], s => (.ok none, s)
| c :: rest, s =>
    match c.convert config credentials s with
    | (.error e, s) => (.error e, s)
    | (.ok (some a), s) => (.ok (some a), s)
    | (.ok none, s) => firstOf credentials config rest s

/-
  Build a backend.  A configuration that names a converter is
  given to that one alone.
-/
def convert
    (chain : ConverterChain A σ)
    (config : BackendConfig) : Action σ (Option A) :=
  match config.adapter with
  | none => firstOf chain.credentials config chain.converters
  | some wanted =>
      match chain.converters.find? (fun c => c.name == wanted) with
      | some c => c.convert config chain.credentials
      | none =>
          Action.pure?
            (.error (unknownAdapter config.name wanted))

/- The form shown in diagnostics. -/
def diagnostic (chain : ConverterChain A σ) : String :=
  "ConverterChain \x7b converters: " ++
    Text.quotedList (chain.converters.map (·.name)) ++
    ", credentials: " ++ chain.credentials.diagnostic ++ " \x7d"

end ConverterChain

end StorageRouting

------------------------------------------------------------
-- Populating a Registry
------------------------------------------------------------

namespace StorageRouting

namespace Registry

variable {A σ : Type}

/- The failure of a configuration that nobody converts. -/
def unclaimed (config : BackendConfig) : Error :=
  .config
    ("No adapter accepts backend '" ++ config.name ++
      "' of type '" ++ config.kind ++ "'")

/- The failure of a strict registry without its primary. -/
def missingPrimary (primary : String) : Error :=
  .config
    ("Primary backend '" ++ primary ++ "' is not configured")

/- Build one backend; to decline it is a failure here. -/
def build
    (chain : ConverterChain A σ)
    (config : BackendConfig) : Action σ A :=
  fun s =>
    match chain.convert config s with
    | (.ok (some a), s) => (.ok a, s)
    | (.ok none, s) => (.error (unclaimed config), s)
    | (.error e, s) => (.error e, s)

/-
  Build and register backends in order.  A failure is passed
  over, unless it is that of the primary backend of a strict
  registry.
-/
def addAll
    (chain : ConverterChain A σ) :
    List BackendConfig → Registry A → σ →
      Changed A σ (Except Error Unit)
| [], r, s => ⟨.ok (), r, s⟩
| config :: rest, r, s =>
    match build chain config s with
    | (.ok a, s) =>
        addAll chain rest (r.register config.name a).2 s
    | (.error e, s) =>
        if r.strict ∧ config.name = r.primary then ⟨.error e, r, s⟩
        else addAll chain rest r s

/-
  Build and register backends; a strict registry needs its
  primary in the end.
-/
def populate
    (chain : ConverterChain A σ)
    (configs : List BackendConfig)
    (r : Registry A)
    (s : σ) : Changed A σ (Except Error Unit) :=
  let c := addAll chain configs r s
  match c.answer with
  | .error e => { c with answer := .error e }
  | .ok _ =>
      if c.registry.strict ∧ ¬ c.registry.contains c.registry.primary
      then
        { c with
          answer := .error (missingPrimary c.registry.primary) }
      else c

/- The registry of settings. -/
def ofSettings
    (chain : ConverterChain A σ)
    (settings : Settings)
    (s : σ) : Except Error (Registry A) × σ :=
  let c :=
    populate chain settings.backends.values
      (new settings.primary settings.strict) s
  match c.answer with
  | .ok _ => (.ok c.registry, c.state)
  | .error e => (.error e, c.state)

end Registry

end StorageRouting
