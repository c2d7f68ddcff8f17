import StorageRouting.Backend.Form
import StorageRouting.Console.Session
import StorageRouting.Number.Size

/-
  The command that shows what is known about an object.

  Key definitions include:
    * `Lookup`
    * `Lookup.rows`
    * `Lookup.run`
-/

------------------------------------------------------------
-- Lookups
------------------------------------------------------------

namespace StorageRouting

/- An object and its place. -/
structure Lookup where
  place : Place
  object : ObjectInfo
deriving DecidableEq, Repr

namespace Lookup

variable {σ : Type}

/- The written form of a lookup. -/
def toValue (l : Lookup) : Value :=
  .object (l.place.fields ++ l.object.fields)

/- What is known about the object, under labels. -/
def rows
    (f : Formatter)
    (l : Lookup) : List (String × String) :=
  let o := l.object
  let size := (o.size.getD 0).toNat
  let modified := (o.modified.map Moment.text).getD ""
  let sizeText :=
    Size.text size ++ " (" ++ toString size ++ " bytes)"
  [("Backend", f.paint .name l.place.backend),
    ("Bucket", l.place.bucket),
    ("Key", f.paint .object o.key),
    ("Size", f.paint .size sizeText),
    ("Modified", f.paint .timestamp modified),
    ("ETag", o.etag.getD ""),
    ("Type", o.contentType.getD "")]

/- A lookup in lines. -/
def screen
    (f : Formatter)
    (l : Lookup) : Screen :=
  (l.rows f).flatMap (fun (label, value) =>
    f.line (f.paint .label (Text.padRight 9 label) ++ " " ++ value))

/- Look an object up. -/
def take
    (r : StorageClient.Route σ)
    (key : String)
    (bucket : Option String) : Action σ Lookup := do
  let place ← Action.pure? (Session.placeOf r bucket)
  let object ← StorageClient.standard.stat r (some place.bucket) key
  return ⟨place, object⟩

/- Show what is known about an object. -/
def run
    (session : Session σ)
    (f : Formatter)
    (key : String)
    (bucket : Option String) : Job σ ExitCode := do
  let r ←
    session.direct "stat"
      [("key", .string key), ("bucket", .ofString? bucket)]
  match ← Job.ask (take r key bucket) with
  | .error e => Job.report f ("Failed to stat '" ++ key ++ "'") e
  | .ok l => Job.present f l.toValue (l.screen f)

end Lookup

end StorageRouting
