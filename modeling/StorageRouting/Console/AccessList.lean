import StorageRouting.Backend.Form
import StorageRouting.Console.Session
import StorageRouting.Console.Table

/-
  The commands about the access lists of buckets and objects.

  Key definitions include:
    * `AccessList`
    * `AccessList.runGet`
    * `AccessList.runSet`
-/

------------------------------------------------------------
-- Access Lists
------------------------------------------------------------

namespace StorageRouting

/- The access list of a bucket, or of an object in it. -/
structure AccessList where
  place : Place
  key : Option String
  policy : AccessPolicy
deriving DecidableEq, Repr

namespace AccessList

/- A bucket or an object in words. -/
def target
    (bucket : String)
    (key : Option String) : String :=
  match key with
  | some key => bucket ++ "/" ++ key
  | none => bucket

/- The written form of an access list. -/
def toValue (l : AccessList) : Value :=
  .object
    (l.place.fields ++
      Value.optional "key" (l.key.map .string) ++
      Value.optional "owner" (l.policy.owner.map .string) ++
      [("grants", .array (l.policy.grants.map Grant.toValue))])

/- The grants of an access list. -/
def table (l : AccessList) : Table where
  header := ["GRANTEE", "PERMISSION"]
  rows := l.policy.grants.map (fun g => [g.grantee, g.permission.name])

/- An access list in lines and a table. -/
def screen
    (f : Formatter)
    (l : AccessList) : Screen :=
  let owner :=
    match l.policy.owner with
    | some owner => f.line (f.paint .label "Owner:" ++ " " ++ owner)
    | none => []
  f.line
      (f.paint .label "Target:" ++ " " ++
        f.paint .name l.place.backend ++ ":" ++
        target l.place.bucket l.key) ++
    owner ++ f.line l.table.text

end AccessList

end StorageRouting

------------------------------------------------------------
-- Commands
------------------------------------------------------------

namespace StorageRouting

namespace AccessList

variable {σ : Type}

/- Read an access list. -/
def read
    (r : StorageClient.Route σ)
    (key bucket : Option String) : Action σ AccessList := do
  let place ← Action.pure? (Session.placeOf r bucket)
  let policy ←
    StorageClient.standard.getAcl r (some place.bucket) key
  return ⟨place, key, policy⟩

/- Show an access list. -/
def runGet
    (session : Session σ)
    (f : Formatter)
    (key bucket : Option String) : Job σ ExitCode := do
  let r ←
    session.direct "acl-get"
      [("key", .ofString? key), ("bucket", .ofString? bucket)]
  match ← Job.ask (read r key bucket) with
  | .error e => Job.report f "Failed to read ACL" e
  | .ok l => Job.present f l.toValue (l.screen f)

/- Put a canned access list in place. -/
def write
    (r : StorageClient.Route σ)
    (acl : CannedAcl)
    (key bucket : Option String) : Action σ Place := do
  let place ← Action.pure? (Session.placeOf r bucket)
  StorageClient.standard.setAcl r (some place.bucket) key acl
  return place

/- The document about an access list that was set. -/
def setValue
    (acl : CannedAcl)
    (key : Option String)
    (p : Place) : Value :=
  .sorted (p.fields ++
    [("key", .ofString? key), ("acl", .string acl.name)])

/- Set an access list. -/
def runSet
    (session : Session σ)
    (f : Formatter)
    (acl : CannedAcl)
    (key bucket : Option String) : Job σ ExitCode := do
  let r ←
    session.direct "acl-set"
      [("acl", .string acl.name), ("key", .ofString? key),
        ("bucket", .ofString? bucket)]
  match ← Job.ask (write r acl key bucket) with
  | .error e => Job.report f "Failed to set ACL" e
  | .ok p =>
      Job.present f (setValue acl key p)
        (f.success
          ("Set " ++ acl.name ++ " on " ++ p.backend ++ ":" ++
            target p.bucket key))

end AccessList

end StorageRouting
