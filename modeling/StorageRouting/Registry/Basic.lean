import StorageRouting.Config.Settings
import StorageRouting.Registry.Event
import StorageRouting.Routing.Stack

/-
  Registries of backends by name, with a fallback to the
  primary one.

  Key definitions include:
    * `Registry`
    * `Registry.register`
    * `Registry.unregister`
    * `Registry.resolve`
    * `Registry.shutdown`
-/

------------------------------------------------------------
-- Registries
------------------------------------------------------------

namespace StorageRouting

/-
  A registry: the name of the primary backend, whether unknown
  keys are refused, the backends, and the events since they
  were last collected, if anybody listens.
-/
structure Registry (A : Type) where
  primary : String
  strict : Bool
  adapters : Dictionary A
  events : Option (List RegistryEvent)

namespace Registry

variable {A σ : Type}

/- A registry without backends. -/
def new
    (primary : String)
    (strict : Bool) : Registry A :=
  { primary, strict, adapters := Dictionary.empty, events := none }

/- Let somebody listen to the events. -/
def listening (r : Registry A) : Registry A :=
  { r with events := some [] }

/- Change whether unknown keys are refused. -/
def setStrict
    (r : Registry A)
    (strict : Bool) : Registry A :=
  { r with strict }

/- Tell those who listen of an event. -/
def publish
    (r : Registry A)
    (e : RegistryEvent) : Registry A :=
  { r with events := r.events.map (· ++ [e]) }

/- The events since the last collection, oldest first. -/
def collectEvents
    (r : Registry A) : List RegistryEvent × Registry A :=
  (r.events.getD [], { r with events := r.events.map (fun _ => []) })

/- The backend under a name. -/
def get?
    (r : Registry A)
    (name : String) : Option A :=
  r.adapters.get? name

/- Whether there is a backend under a name. -/
def contains
    (r : Registry A)
    (name : String) : Bool :=
  r.adapters.contains name

/- The names of the backends in ascending order. -/
def backends (r : Registry A) : List String :=
  r.adapters.keys

/- The form shown in diagnostics. -/
def diagnostic (r : Registry A) : String :=
  "DriverRegistry \x7b primary: " ++ Text.quoted r.primary ++
    ", strict: " ++ Text.boolWord r.strict ++
    ", backends: " ++ Text.quotedList r.backends ++ " \x7d"

end Registry

end StorageRouting

------------------------------------------------------------
-- Lookup
------------------------------------------------------------

namespace StorageRouting

namespace Registry

variable {A σ : Type}

/- The primary backend. -/
def primaryAdapter (r : Registry A) : Except Error A :=
  match r.get? r.primary with
  | some a => .ok a
  | none => .error (.unknownBackend r.primary)

/-
  The backend for a routing key.  No preference means the
  primary one; so does an unknown key, unless the registry is
  strict.
-/
def resolve
    (r : Registry A)
    (key : String) : Except Error A :=
  if key.isEmpty then r.primaryAdapter
  else
    match r.get? key with
    | some a => .ok a
    | none =>
        if r.strict then .error (.unknownBackend key)
        else r.primaryAdapter

/- The backend that a routing stack selects. -/
def current
    (r : Registry A)
    (stack : Stack) : Except Error A :=
  r.resolve stack.peek

end Registry

end StorageRouting

------------------------------------------------------------
-- Adding and Removing
------------------------------------------------------------

namespace StorageRouting

namespace Registry

variable {A σ : Type}

/- Add a backend under a name that is free. -/
def register
    (r : Registry A)
    (name : String)
    (a : A) : Bool × Registry A :=
  if r.contains name then (false, r)
  else
    (true,
      publish { r with adapters := r.adapters.insert name a }
        ⟨name, .added⟩)

/-
  How a backend is closed.  The registry can be looked at as it
  stands when the backend is closed.
-/
abbrev Close (A σ : Type) :=
  Registry A → A → σ → Except Error Unit × σ

/- Why a name must not be removed, if it must not. -/
def removalRefusal?
    (r : Registry A)
    (name : String) : Option Error :=
  if Text.isBlankText name then
    some (.driverRemovalRejected "backend name must not be empty")
  else if r.strict ∧ name = r.primary then
    some
      (.driverRemovalRejected
        ("'" ++ name ++
          "' is the primary backend and the registry is strict"))
  else none

/- What came of an operation on a registry. -/
structure Changed (A σ α : Type) where
  answer : α
  registry : Registry A
  state : σ

/-
  Remove a backend and then close it.  A failure to close it
  does not bring it back.
-/
def unregister
    (close : Close A σ)
    (r : Registry A)
    (name : String)
    (s : σ) : Changed A σ (Except Error Bool) :=
  match r.removalRefusal? name with
  | some e => ⟨.error e, r, s⟩
  | none =>
      match r.get? name with
      | none => ⟨.ok false, r, s⟩
      | some a =>
          let r := { r with adapters := r.adapters.erase name }
          let (_, s) := close r a s
          ⟨.ok true, r.publish ⟨name, .removed⟩, s⟩

end Registry

/- Which backends were closed, and which failed to. -/
structure ShutdownSummary where
  closed : List String
  failed : List (String × Error)
deriving DecidableEq, Repr

namespace ShutdownSummary

/- Whether no backend failed to close. -/
def isClean (s : ShutdownSummary) : Bool :=
  s.failed.isEmpty

/- Add the outcome of closing one more backend, in front. -/
def add
    (name : String)
    (outcome : Except Error Unit)
    (s : ShutdownSummary) : ShutdownSummary :=
  match outcome with
  | .ok _ => { s with closed := name :: s.closed }
  | .error e => { s with failed := (name, e) :: s.failed }

end ShutdownSummary

namespace Registry

variable {A σ : Type}

/- Close backends one after the other, whatever fails. -/
def closeAll
    (close : Close A σ)
    (r : Registry A) :
    List (String × A) → σ → ShutdownSummary × σ
| [], s => (⟨[], []⟩, s)
| (name, a) :: rest, s =>
    let (outcome, s) := close r a s
    let (summary, s) := closeAll close r rest s
    (summary.add name outcome, s)

/- Remove all backends, and then close each in order of name. -/
def shutdown
    (close : Close A σ)
    (r : Registry A)
    (s : σ) : Changed A σ ShutdownSummary :=
  let emptied := { r with adapters := Dictionary.empty }
  let (summary, s) := closeAll close emptied r.adapters.entries s
  ⟨summary, emptied, s⟩

end Registry

end StorageRouting
