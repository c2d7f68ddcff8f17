import StorageRouting.Console.Session
import StorageRouting.Time.Expiration

/-
  The command that makes links to objects.

  Key definitions include:
    * `SharedLink`
    * `SharedLink.make`
    * `SharedLink.run`
-/

------------------------------------------------------------
-- Links
------------------------------------------------------------

namespace StorageRouting

/- A link to an object that can be used for so many seconds. -/
structure SharedLink where
  place : Place
  key : String
  method : LinkMethod
  url : String
  seconds : Nat
deriving DecidableEq, Repr

namespace SharedLink

/- The written form of a link that is made at a moment. -/
def toValue
    (now : Moment)
    (l : SharedLink) : Value :=
  let ends := ((now.after? l.seconds).map Moment.rfc3339).getD ""
  .object
    (l.place.fields ++
      [("key", .string l.key), ("method", .string l.method.name),
        ("url", .string l.url), ("expires_secs", .nat l.seconds),
        ("expires_at", .string ends)])

/- A link in lines. -/
def screen
    (f : Formatter)
    (l : SharedLink) : Screen :=
  f.line
      (f.paint .label "Object:" ++ " " ++
        f.paint .name l.place.backend ++ ":" ++
        l.place.bucket ++ "/" ++ l.key) ++
    f.line (f.paint .label "Method:" ++ " " ++ l.method.name) ++
    f.line
      (f.paint .label "Expires:" ++ " " ++ Expiration.text l.seconds) ++
    f.line (f.paint .label "URL:" ++ " " ++ f.paint .url l.url)

end SharedLink

end StorageRouting

------------------------------------------------------------
-- Sharing
------------------------------------------------------------

namespace StorageRouting

namespace SharedLink

variable {σ : Type}

/- Whether a method only makes sense for objects that exist. -/
def needsObject : LinkMethod → Bool
| .get => true
| .head => true
| _ => false

/- The failure of a link to an object that does not exist. -/
def missing
    (p : Place)
    (key : String) : Error :=
  .notFound ("Object not found: " ++ p.bucket ++ "/" ++ key)

/- Make a link. -/
def make
    (r : StorageClient.Route σ)
    (key : String)
    (bucket : Option String)
    (method : LinkMethod)
    (seconds : Nat) : Action σ SharedLink := do
  let place ← Action.pure? (Session.placeOf r bucket)
  if needsObject method then
    let exists? ←
      StorageClient.standard.hasObject r (some place.bucket) key
    if !exists? then throw (missing place key)
  let url ←
    StorageClient.standard.link r (some place.bucket) key method
      seconds
  return { place, key, method, url, seconds }

/- Make a link that can be used for a time, and show it. -/
def runFor
    (session : Session σ)
    (f : Formatter)
    (key : String)
    (bucket : Option String)
    (method : LinkMethod)
    (seconds : Nat) : Job σ ExitCode := do
  let r ←
    session.direct "share"
      [("key", .string key), ("bucket", .ofString? bucket)]
  match ← Job.ask (make r key bucket method seconds) with
  | .error e => Job.report f ("Failed to share '" ++ key ++ "'") e
  | .ok l =>
      let now ← Job.observe session.now
      Job.present f (l.toValue now) (l.screen f)

/- Make a link; the time is read first. -/
def run
    (session : Session σ)
    (f : Formatter)
    (key : String)
    (bucket : Option String)
    (expire : String)
    (method : LinkMethod) : Job σ ExitCode :=
  match Expiration.parse expire with
  | .error text => do
      Job.print (f.error text)
      return .usageError
  | .ok seconds => runFor session f key bucket method seconds

end SharedLink

end StorageRouting
