import StorageRouting.Backend.Store

/-
  Adapters that misbehave on purpose, around another adapter.

  Key definitions include:
    * `Adapter.stubborn`
    * `Adapter.hanging`
    * `Adapter.scripted`
-/

------------------------------------------------------------
-- Misbehaviour
------------------------------------------------------------

namespace StorageRouting

namespace Adapter

variable {σ : Type}

/- An adapter that refuses to close, and stays open. -/
def stubborn (a : Adapter σ) : Adapter σ :=
  { a with
    close :=
      Action.pure?
        (.error (.backendOperationFailed "refusing to close")) }

/- An adapter whose probe never answers. -/
def hanging (a : Adapter σ) : Adapter σ :=
  { a with probe := fun s => (none, s) }

/- Pages that are still to be given, in order. -/
abbrev Script :=
  List (Except Error ListPage)

/- The page that a script gives next. -/
def nextPage : Script → Except Error ListPage × Script
| [] => (.error (.general "script exhausted"), [])
| page :: rest => (page, rest)

/-
  An adapter that takes each listing from a script, and notes
  what was asked for.
-/
def scripted
    (script : Slot σ Script)
    (log : Slot σ (List ListOptions))
    (a : Adapter σ) : Adapter σ :=
  let store : ObjectStore σ :=
    { a.toObjectStore with
      list := fun _ options s =>
        let s := log.set (log.get s ++ [options]) s
        let (page, rest) := nextPage (script.get s)
        (page, script.set rest s) }
  { a with
    toObjectStore := store
    probe := store.usualProbe a.config }

end Adapter

end StorageRouting
