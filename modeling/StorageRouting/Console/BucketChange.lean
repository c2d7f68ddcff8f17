import StorageRouting.Console.Session

/-
  The commands that add and remove buckets.

  Key definitions include:
    * `BucketChange`
    * `BucketChange.runMake`
    * `BucketChange.runRemove`
-/

------------------------------------------------------------
-- Changes
------------------------------------------------------------

namespace StorageRouting

/- What came of a bucket. -/
inductive BucketFate where
| existed : BucketFate
| created : BucketFate
| removed : BucketFate
deriving DecidableEq, Repr

namespace BucketFate

/- The written form of a fate. -/
def name : BucketFate → String
| .existed => "exists"
| .created => "created"
| .removed => "removed"

end BucketFate

/- A bucket and what came of it. -/
structure BucketChange where
  place : Place
  fate : BucketFate
deriving DecidableEq, Repr

namespace BucketChange

/- The written form of a change. -/
def toValue (c : BucketChange) : Value :=
  .object (c.place.fields ++ [("action", .string c.fate.name)])

/- A change in a line. -/
def screen
    (f : Formatter)
    (c : BucketChange) : Screen :=
  let bucket :=
    c.place.backend ++ ":" ++ f.paint .name c.place.bucket
  f.success
    (match c.fate with
    | .existed => "Bucket " ++ bucket ++ " already exists"
    | .created => "Created bucket " ++ bucket
    | .removed => "Removed bucket " ++ bucket)

end BucketChange

end StorageRouting

------------------------------------------------------------
-- Commands
------------------------------------------------------------

namespace StorageRouting

namespace BucketChange

variable {σ : Type}

/- Add a bucket, or be content with one that is there. -/
def make
    (r : StorageClient.Route σ)
    (bucket : Option String)
    (ignoreExisting : Bool) : Action σ BucketChange := do
  let place ← Action.pure? (Session.placeOf r bucket)
  let exists? ←
    if ignoreExisting then
      StorageClient.standard.hasBucket r (some place.bucket)
    else pure false
  if exists? then return ⟨place, .existed⟩
  else
    let _ ← StorageClient.standard.createBucket r (some place.bucket)
    return ⟨place, .created⟩

/- Add a bucket. -/
def runMake
    (session : Session σ)
    (f : Formatter)
    (bucket : Option String)
    (ignoreExisting : Bool) : Job σ ExitCode := do
  let r ← session.direct "mb" [("bucket", .ofString? bucket)]
  match ← Job.ask (make r bucket ignoreExisting) with
  | .error e => Job.report f "Failed to create bucket" e
  | .ok c => Job.present f c.toValue (c.screen f)

/- Take a bucket away. -/
def remove
    (r : StorageClient.Route σ)
    (bucket : Option String) : Action σ BucketChange := do
  let backend ← Action.pure? (StorageClient.backendName r)
  let bucket ← StorageClient.standard.deleteBucket r bucket
  return ⟨⟨backend, bucket⟩, .removed⟩

/- Remove a bucket. -/
def runRemove
    (session : Session σ)
    (f : Formatter)
    (bucket : Option String) : Job σ ExitCode := do
  let r ← session.direct "rb" [("bucket", .ofString? bucket)]
  match ← Job.ask (remove r bucket) with
  | .error e => Job.report f "Failed to remove bucket" e
  | .ok c => Job.present f c.toValue (c.screen f)

end BucketChange

end StorageRouting
