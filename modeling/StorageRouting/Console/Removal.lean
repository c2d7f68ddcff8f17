import StorageRouting.Console.Session

/-
  The command that removes objects.

  Key definitions include:
    * `Removal`
    * `Removal.removeAll`
    * `Removal.code`
    * `Removal.run`
-/

------------------------------------------------------------
-- Removals
------------------------------------------------------------

namespace StorageRouting

/- What came of removing keys of a place, in the given order. -/
structure Removal where
  place : Place
  outcomes : List (String × Except Error Unit)

namespace Removal

/- The keys that were removed. -/
def deleted (r : Removal) : List String :=
  r.outcomes.filterMap (fun (key, outcome) =>
    match outcome with
    | .ok _ => some key
    | .error _ => none)

/- The keys that were not removed, with their errors. -/
def failures (r : Removal) : List (String × Error) :=
  r.outcomes.filterMap (fun (key, outcome) =>
    match outcome with
    | .ok _ => none
    | .error e => some (key, e))

/- The exit code is that of the first failure, if any. -/
def code (r : Removal) : ExitCode :=
  match r.failures with
  | [] => .success
  | (_, e) :: _ => .ofError e

/- The written form of a failure. -/
def failureValue (failure : String × Error) : Value :=
  .object
    [("key", .string failure.1),
      ("error", .string failure.2.message)]

/- The written form of a removal. -/
def toValue (r : Removal) : Value :=
  let failed :=
    if r.failures.isEmpty then none
    else some (.array (r.failures.map failureValue))
  .object
    (r.place.fields ++ [("deleted", .ofStrings r.deleted)] ++
      Value.optional "failed" failed)

/- What is said of a key. -/
def outcomeScreen
    (f : Formatter)
    (place : Place)
    (key : String) : Except Error Unit → Screen
| .ok _ => f.success ("Removed " ++ place.object key)
| .error e =>
    f.error ("Failed to remove '" ++ key ++ "': " ++ e.message)

/- What is said of all keys, and the document below it. -/
def screen
    (f : Formatter)
    (r : Removal) : Screen :=
  r.outcomes.flatMap
      (fun (key, outcome) => outcomeScreen f r.place key outcome) ++
    (if f.json then Formatter.document r.toValue else [])

end Removal

end StorageRouting

------------------------------------------------------------
-- Removing
------------------------------------------------------------

namespace StorageRouting

namespace Removal

variable {σ : Type}

/- Remove keys one after the other, whatever fails. -/
def removeAll
    (remove : String → Action σ Unit) :
    List String → σ → List (String × Except Error Unit) × σ
| [], s => ([], s)
| key :: rest, s =>
    let (outcome, s) := remove key s
    let (outcomes, s) := removeAll remove rest s
    ((key, outcome) :: outcomes, s)

/- Remove keys from a bucket, if there is one to use. -/
def take
    (r : StorageClient.Route σ)
    (keys : List String)
    (bucket : Option String) : Action σ Removal := do
  let place ← Action.pure? (Session.placeOf r bucket)
  fun s =>
    let (outcomes, s) :=
      removeAll
        (StorageClient.standard.remove r (some place.bucket)) keys s
    (.ok ⟨place, outcomes⟩, s)

/- Remove objects. -/
def run
    (session : Session σ)
    (f : Formatter)
    (keys : List String)
    (bucket : Option String) : Job σ ExitCode := do
  let r ←
    session.direct "rm"
      [("keys", .ofStrings keys), ("bucket", .ofString? bucket)]
  match ← Job.ask (take r keys bucket) with
  | .error e => Job.report f "Failed to remove objects" e
  | .ok removal =>
      Job.print (removal.screen f)
      return removal.code

end Removal

end StorageRouting
