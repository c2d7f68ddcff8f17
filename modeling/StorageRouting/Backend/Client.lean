import StorageRouting.Backend.Store
import StorageRouting.Registry.Health

/-
  The storage client: operations on the backend that the
  routing stack selects, with names mapped on the way.

  Key definitions include:
    * `BucketMapper`
    * `KeyMapper`
    * `StorageClient`
    * `StorageClient.target`
    * `StorageClient.stat`
    * `StorageClient.listAll`
-/

------------------------------------------------------------
-- Mappers
------------------------------------------------------------

namespace StorageRouting

/- The bucket that a backend uses for the one asked for. -/
abbrev BucketMapper :=
  BackendConfig → Option String → Option String

/- The key that a backend uses for the one asked for. -/
abbrev KeyMapper :=
  BackendConfig → String → String

namespace BucketMapper

/- The bucket asked for, else the default bucket. -/
def usual : BucketMapper :=
  fun config bucket =>
    match bucket with
    | some b => if b.isEmpty then config.defaultBucket else some b
    | none => config.defaultBucket

end BucketMapper

namespace KeyMapper

/- The key asked for. -/
def identity : KeyMapper :=
  fun _ key => key

end KeyMapper

end StorageRouting

------------------------------------------------------------
-- Probing
------------------------------------------------------------

namespace StorageRouting

/- How the adapters of a registry are probed. -/
def Adapter.prober
    {σ : Type}
    (now : σ → Moment)
    (timeout : Timeout) :
    HealthReport.Prober (Adapter σ) σ where
  probe a := a.probe
  kind a := a.config.kind
  now := now
  timeout := timeout

end StorageRouting

------------------------------------------------------------
-- Clients
------------------------------------------------------------

namespace StorageRouting

/- How names are mapped on the way to a backend. -/
structure StorageClient where
  bucketMapper : BucketMapper
  keyMapper : KeyMapper

namespace StorageClient

variable {σ α : Type}

/- The usual mappers. -/
def standard : StorageClient :=
  ⟨BucketMapper.usual, KeyMapper.identity⟩

instance : Inhabited StorageClient :=
  ⟨standard⟩

/- The failure of an operation without a bucket. -/
def noBucket (name : String) : Error :=
  .config
    ("No bucket given and backend '" ++ name ++
      "' has no default bucket")

/- A registry and the routing stack that selects in it. -/
structure Route (σ : Type) where
  registry : Registry (Adapter σ)
  stack : Stack

/- The backend that a route leads to. -/
def Route.adapter (r : Route σ) : Except Error (Adapter σ) :=
  r.registry.current r.stack

/- The backend of an operation, and the bucket on it. -/
def target
    (c : StorageClient)
    (r : Route σ)
    (bucket : Option String) :
    Except Error (Adapter σ × String) :=
  match r.adapter with
  | .error e => .error e
  | .ok a =>
      match c.bucketMapper a.config bucket with
      | some b => .ok (a, b)
      | none => .error (noBucket a.name)

/- The key on a backend. -/
def keyOn
    (c : StorageClient)
    (a : Adapter σ)
    (key : String) : String :=
  c.keyMapper a.config key

/- Go on with the backend and the bucket of an operation. -/
def withTarget
    (c : StorageClient)
    (r : Route σ)
    (bucket : Option String)
    (f : Adapter σ → String → Action σ α) : Action σ α :=
  fun s =>
    match c.target r bucket with
    | .error e => (.error e, s)
    | .ok (a, b) => f a b s

/- The name of the backend that a route leads to. -/
def backendName (r : Route σ) : Except Error String :=
  r.adapter.map (·.name)

/- The bucket that an operation would use. -/
def bucketFor
    (c : StorageClient)
    (r : Route σ)
    (bucket : Option String) : Except Error String :=
  (c.target r bucket).map Prod.snd

end StorageClient

end StorageRouting

------------------------------------------------------------
-- Operations
------------------------------------------------------------

namespace StorageRouting

namespace StorageClient

variable {σ : Type}

/- Store a body whose size may be known. -/
def uploadStream
    (c : StorageClient)
    (r : Route σ)
    (bucket : Option String)
    (key : String)
    (body : Body)
    (size : Option Nat)
    (contentType : Option String) : Action σ ObjectInfo :=
  c.withTarget r bucket (fun a b =>
    a.put b (c.keyOn a key) body size contentType)

/- Store bytes. -/
def upload
    (c : StorageClient)
    (r : Route σ)
    (bucket : Option String)
    (key : String)
    (data : Bytes)
    (contentType : Option String) : Action σ ObjectInfo :=
  c.uploadStream r bucket key (Body.ofBytes data) (some data.size)
    contentType

/- The content of an object as it arrives. -/
def openObject
    (c : StorageClient)
    (r : Route σ)
    (bucket : Option String)
    (key : String) : Action σ Body :=
  c.withTarget r bucket (fun a b => a.get b (c.keyOn a key))

/- The whole content of an object. -/
def download
    (c : StorageClient)
    (r : Route σ)
    (bucket : Option String)
    (key : String) : Action σ Bytes :=
  fun s =>
    match c.openObject r bucket key s with
    | (.ok body, s) => (body.collect, s)
    | (.error e, s) => (.error e, s)

/- Remove an object. -/
def remove
    (c : StorageClient)
    (r : Route σ)
    (bucket : Option String)
    (key : String) : Action σ Unit :=
  c.withTarget r bucket (fun a b => a.delete b (c.keyOn a key))

/- Whether there is an object. -/
def hasObject
    (c : StorageClient)
    (r : Route σ)
    (bucket : Option String)
    (key : String) : Action σ Bool :=
  c.withTarget r bucket (fun a b => a.hasObject b (c.keyOn a key))

/- What is asked for when one object is looked up. -/
def exactKey (key : String) : ListOptions :=
  { ListOptions.all with keyStart := some key, recursive := true }

/-
  What is known about an object, found in the listing of the
  keys that start with its own.
-/
def stat
    (c : StorageClient)
    (r : Route σ)
    (bucket : Option String)
    (key : String) : Action σ ObjectInfo :=
  c.withTarget r bucket (fun a b s =>
    let key := c.keyOn a key
    let found :=
      ListWalk.find a.toObjectStore b (fun info => info.key == key)
        (some (exactKey key)) s
    match found with
    | (.error e, s) => (.error e, s)
    | (.ok (some info), s) => (.ok info, s)
    | (.ok none, s) =>
        (.error
          (.notFound
            ("Object not found: " ++ b ++ "/" ++ key)), s))

/- One page of a listing. -/
def list
    (c : StorageClient)
    (r : Route σ)
    (bucket : Option String)
    (options : ListOptions) : Action σ ListPage :=
  c.withTarget r bucket (fun a b => a.list b options)

/- The entries of pages up to the first error. -/
def gather :
    List (Except Error ListPage) → Except Error (List ObjectInfo)
| [] => .ok []
| .error e :: _ => .error e
| .ok page :: rest =>
    match gather rest with
    | .ok items => .ok (page.items ++ items)
    | .error e => .error e

/- All entries of a listing. -/
def listAll
    (c : StorageClient)
    (r : Route σ)
    (bucket : Option String)
    (options : ListOptions) : Action σ (List ObjectInfo) :=
  c.withTarget r bucket (fun a b s =>
    let (pages, s) :=
      ListWalk.drain a.toObjectStore b (some options) s
    (gather pages, s))

/- Whether there is a bucket. -/
def hasBucket
    (c : StorageClient)
    (r : Route σ)
    (bucket : Option String) : Action σ Bool :=
  c.withTarget r bucket (fun a b => a.hasBucket b)

/- Add a bucket; its name is the answer. -/
def createBucket
    (c : StorageClient)
    (r : Route σ)
    (bucket : Option String) : Action σ String :=
  c.withTarget r bucket (fun a b s =>
    match a.createBucket b s with
    | (.ok _, s) => (.ok b, s)
    | (.error e, s) => (.error e, s))

/- Remove a bucket; its name is the answer. -/
def deleteBucket
    (c : StorageClient)
    (r : Route σ)
    (bucket : Option String) : Action σ String :=
  c.withTarget r bucket (fun a b s =>
    match a.deleteBucket b s with
    | (.ok _, s) => (.ok b, s)
    | (.error e, s) => (.error e, s))

/- Set the access list of a bucket or an object. -/
def setAcl
    (c : StorageClient)
    (r : Route σ)
    (bucket key : Option String)
    (acl : CannedAcl) : Action σ Unit :=
  c.withTarget r bucket (fun a b =>
    a.setAcl b (key.map (c.keyOn a)) acl)

/- The access list of a bucket or an object. -/
def getAcl
    (c : StorageClient)
    (r : Route σ)
    (bucket key : Option String) : Action σ AccessPolicy :=
  c.withTarget r bucket (fun a b =>
    a.getAcl b (key.map (c.keyOn a)))

/- A link to an object that ends after so many seconds. -/
def link
    (c : StorageClient)
    (r : Route σ)
    (bucket : Option String)
    (key : String)
    (method : LinkMethod)
    (ttl : Nat) : Action σ String :=
  c.withTarget r bucket (fun a b =>
    a.link b (c.keyOn a key) method ttl)

/- The form shown in diagnostics. -/
def diagnostic (r : Registry (Adapter σ)) : String :=
  "StorageClient \x7b registry: " ++ r.diagnostic ++ ", .. \x7d"

end StorageClient

end StorageRouting

------------------------------------------------------------
-- The Registry as a Store
------------------------------------------------------------

namespace StorageRouting

namespace Registry

variable {σ α : Type}

/- Pass an operation on to the selected backend. -/
def forward
    (r : Registry (Adapter σ))
    (stack : Stack)
    (f : Adapter σ → Action σ α) : Action σ α :=
  fun s =>
    match r.current stack with
    | .error e => (.error e, s)
    | .ok a => f a s

/- The store that passes every operation on. -/
def objectStore
    (r : Registry (Adapter σ))
    (stack : Stack) : ObjectStore σ where
  put b k body size type :=
    r.forward stack (fun a => a.put b k body size type)
  get b k := r.forward stack (fun a => a.get b k)
  delete b k := r.forward stack (fun a => a.delete b k)
  list b options := r.forward stack (fun a => a.list b options)
  hasObject b k := r.forward stack (fun a => a.hasObject b k)
  hasBucket b := r.forward stack (fun a => a.hasBucket b)
  createBucket b := r.forward stack (fun a => a.createBucket b)
  deleteBucket b := r.forward stack (fun a => a.deleteBucket b)
  setAcl b k acl := r.forward stack (fun a => a.setAcl b k acl)
  getAcl b k := r.forward stack (fun a => a.getAcl b k)
  link b k method ttl :=
    r.forward stack (fun a => a.link b k method ttl)

end Registry

end StorageRouting
