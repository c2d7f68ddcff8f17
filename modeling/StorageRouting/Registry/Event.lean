import StorageRouting.Document.Record

/-
  Notices that a backend was added to a registry or removed.

  Key definitions include:
    * `EventKind`
    * `RegistryEvent`
    * `RegistryEvent.text`
-/

------------------------------------------------------------
-- Events
------------------------------------------------------------

namespace StorageRouting

/- What happened to a backend. -/
inductive EventKind where
| added : EventKind
| removed : EventKind
deriving DecidableEq, Repr

namespace EventKind

/- The written form of a kind. -/
def name : EventKind → String
| .added => "added"
| .removed => "removed"

/- The kind of a written form. -/
def ofName? (s : String) : Option EventKind :=
  [EventKind.added, EventKind.removed].find?
    (fun k => k.name == s)

end EventKind

/- A backend was added or removed. -/
structure RegistryEvent where
  backend : String
  kind : EventKind
deriving DecidableEq, Repr

namespace RegistryEvent

/- The event in words. -/
def text (e : RegistryEvent) : String :=
  e.kind.name ++ " " ++ e.backend

/- The written form of an event. -/
def toValue (e : RegistryEvent) : Value :=
  .object
    [("backend", .string e.backend),
      ("kind", .string e.kind.name)]

/- Read an event. -/
def ofValue? (v : Value) : Option RegistryEvent := do
  let fs ← Record.fields? ["backend", "kind"] false v
  let backend ← fs.required "backend" Value.toString?
  let kind ←
    fs.required "kind"
      (fun v => (Record.variant? v).bind EventKind.ofName?)
  return { backend, kind }

end RegistryEvent

end StorageRouting
