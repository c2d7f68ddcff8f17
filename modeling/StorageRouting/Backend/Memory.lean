import StorageRouting.Backend.Object
import StorageRouting.Access
import StorageRouting.Bytes.SipHash
import StorageRouting.Dictionary

/-
  A store of objects in memory, as a value.  Operations that
  change it answer with the changed store, so that a failure
  changes nothing.

  Key definitions include:
    * `MemoryStore`
    * `MemoryStore.put`
    * `MemoryStore.get`
    * `MemoryStore.list`
    * `MemoryStore.setAcl`
-/

------------------------------------------------------------
-- Stores
------------------------------------------------------------

namespace StorageRouting

/- A stored object. -/
structure StoredObject where
  data : Bytes
  contentType : Option String
  modified : Moment
  etag : String
  acl : CannedAcl

namespace StoredObject

/- What a listing tells about a stored object. -/
def info
    (o : StoredObject)
    (key : String) : ObjectInfo :=
  { key, size := some o.data.size, modified := some o.modified
    etag := some o.etag, contentType := o.contentType
    isDir := false }

end StoredObject

/- A bucket: its objects by key, and its access list. -/
structure MemoryBucket where
  objects : Dictionary StoredObject
  acl : CannedAcl

namespace MemoryBucket

/- A bucket without objects, for its owner alone. -/
def empty : MemoryBucket :=
  ⟨Dictionary.empty, .personal⟩

end MemoryBucket

/- Buckets by name, and whether the store is closed. -/
structure MemoryStore where
  owner : String
  buckets : Dictionary MemoryBucket
  closed : Bool
deriving Inhabited

namespace MemoryStore

/- An open store without buckets. -/
def empty (owner : String) : MemoryStore :=
  ⟨owner, Dictionary.empty, false⟩

/- The failure of every operation after the store is closed. -/
def closedError (name : String) : Error :=
  .backendOperationFailed ("Backend '" ++ name ++ "' is closed")

/- The failure to find a bucket. -/
def missingBucket (bucket : String) : Error :=
  .notFound ("Bucket not found: " ++ bucket)

/- The failure to find an object. -/
def missingObject (bucket key : String) : Error :=
  .notFound ("Object not found: " ++ bucket ++ "/" ++ key)

/- Refuse every operation on a closed store. -/
def ensureOpen (m : MemoryStore) : Except Error Unit :=
  if m.closed then .error (closedError m.owner) else .ok ()

/- A bucket that must exist. -/
def bucket
    (m : MemoryStore)
    (name : String) : Except Error MemoryBucket :=
  match m.buckets.get? name with
  | some b => .ok b
  | none => .error (missingBucket name)

/- An object that must exist. -/
def object
    (m : MemoryStore)
    (name key : String) : Except Error StoredObject := do
  let b ← m.bucket name
  match b.objects.get? key with
  | some o => .ok o
  | none => .error (missingObject name key)

/- Put a bucket in place of the one of its name. -/
def setBucket
    (m : MemoryStore)
    (name : String)
    (b : MemoryBucket) : MemoryStore :=
  { m with buckets := m.buckets.insert name b }

/- Put an object in place of the one of its key. -/
def setObject
    (m : MemoryStore)
    (name : String)
    (b : MemoryBucket)
    (key : String)
    (o : StoredObject) : MemoryStore :=
  m.setBucket name { b with objects := b.objects.insert key o }

end MemoryStore

end StorageRouting

------------------------------------------------------------
-- Objects
------------------------------------------------------------

namespace StorageRouting

namespace MemoryStore

/- The failure of a body that has another size than declared. -/
def wrongSize
    (bucket key : String)
    (actual expected : Nat) : Error :=
  .backendOperationFailed
    ("Body of " ++ bucket ++ "/" ++ key ++ " is " ++
      toString actual ++ " bytes, expected " ++
      toString expected)

/- A declared size must be the size of the body. -/
def checkSize
    (bucket key : String)
    (declared : Option Nat)
    (data : Bytes) : Except Error Unit :=
  match declared with
  | none => .ok ()
  | some expected =>
      if expected = data.size then .ok ()
      else .error (wrongSize bucket key data.size expected)

/- Store the content of a body under a key. -/
def put
    (m : MemoryStore)
    (now : Moment)
    (name key : String)
    (body : Body)
    (size : Option Nat)
    (contentType : Option String) :
    Except Error (ObjectInfo × MemoryStore) := do
  m.ensureOpen
  let b ← m.bucket name
  let data ← Body.collect body
  checkSize name key size data
  let o : StoredObject :=
    { data, contentType, modified := now
      etag := SipHash.tag data, acl := .personal }
  return (o.info key, m.setObject name b key o)

/- The content of an object. -/
def get
    (m : MemoryStore)
    (name key : String) : Except Error Body := do
  m.ensureOpen
  let o ← m.object name key
  return Body.ofBytes o.data

/- Remove an object; a key without one stays so. -/
def delete
    (m : MemoryStore)
    (name key : String) : Except Error (Unit × MemoryStore) := do
  m.ensureOpen
  let b ← m.bucket name
  return ((),
    m.setBucket name { b with objects := b.objects.erase key })

/- Whether there is an object under a key. -/
def hasObject
    (m : MemoryStore)
    (name key : String) : Except Error Bool := do
  m.ensureOpen
  match m.buckets.get? name with
  | some b => return b.objects.contains key
  | none => return false

end MemoryStore

end StorageRouting

------------------------------------------------------------
-- Listings
------------------------------------------------------------

namespace StorageRouting

namespace MemoryStore

/- The number of entries of a page that asks for none. -/
def defaultPage : Nat :=
  1000

/-
  A text up to and including its first slash, if it has one.
-/
def upToSlash? (cs : List Char) : Option (List Char) :=
  match cs.dropWhile (· ≠ '/') with
  | [] => none
  | c :: _ => some (cs.takeWhile (· ≠ '/') ++ [c])

/-
  The entry that stands for a key of a listing: the object, or
  the directory that it is grouped under.
-/
def entryOf
    (start : String)
    (recursive : Bool)
    (rest : List Char)
    (key : String)
    (o : StoredObject) : String × ObjectInfo :=
  match recursive, upToSlash? rest with
  | false, some part =>
      let dir := start ++ String.ofList part
      (dir, ObjectInfo.dir dir)
  | _, _ => (key, o.info key)

/-
  Gather the entries of the objects from a place on; the scan
  ends at the first key that does not start as asked.
-/
def scan
    (start : String)
    (recursive : Bool) :
    List (String × StoredObject) →
      Dictionary ObjectInfo → Dictionary ObjectInfo
| [], found => found
| (key, o) :: more, found =>
    match Text.dropStart? start.toList key.toList with
    | none => found
    | some rest =>
        let (name, info) := entryOf start recursive rest key o
        scan start recursive more (found.insert name info)

/- All entries of a listing, by ascending key. -/
def listing
    (b : MemoryBucket)
    (start : String)
    (recursive : Bool) : List ObjectInfo :=
  let candidates :=
    b.objects.entries.dropWhile (fun e => e.1 < start)
  (scan start recursive candidates Dictionary.empty).values

/- How many entries a page has at most. -/
def pageSize (asked : Option Int) : Nat :=
  match asked with
  | some n => if 0 < n then n.toNat else defaultPage
  | none => defaultPage

/- Cut the page that options ask for out of all entries. -/
def cutPage
    (options : ListOptions)
    (entries : List ObjectInfo) : ListPage :=
  let remaining :=
    match options.token with
    | none => entries
    | some token => entries.filter (fun e => token < e.key)
  let size := pageSize options.maxKeys
  let items := remaining.take size
  let truncated := size < remaining.length
  { items, truncated
    token :=
      if truncated then items.getLast?.map (·.key) else none }

/- One page of a listing. -/
def list
    (m : MemoryStore)
    (name : String)
    (options : ListOptions) : Except Error ListPage := do
  m.ensureOpen
  let b ← m.bucket name
  return cutPage options
    (listing b (options.keyStart.getD "") options.recursive)

end MemoryStore

end StorageRouting

------------------------------------------------------------
-- Buckets
------------------------------------------------------------

namespace StorageRouting

namespace MemoryStore

/- Whether there is a bucket. -/
def hasBucket
    (m : MemoryStore)
    (name : String) : Except Error Bool := do
  m.ensureOpen
  return m.buckets.contains name

/- Add a bucket. -/
def createBucket
    (m : MemoryStore)
    (name : String) : Except Error (Unit × MemoryStore) := do
  m.ensureOpen
  if m.buckets.contains name then
    .error
      (.backendOperationFailed
        ("Bucket already exists: " ++ name))
  else
    return ((), m.setBucket name MemoryBucket.empty)

/- Remove a bucket without objects. -/
def deleteBucket
    (m : MemoryStore)
    (name : String) : Except Error (Unit × MemoryStore) := do
  m.ensureOpen
  let b ← m.bucket name
  if b.objects.isEmpty then
    return ((), { m with buckets := m.buckets.erase name })
  else
    .error
      (.backendOperationFailed ("Bucket is not empty: " ++ name))

end MemoryStore

end StorageRouting

------------------------------------------------------------
-- Access Lists, Links and Closing
------------------------------------------------------------

namespace StorageRouting

namespace MemoryStore

/- Set the access list of a bucket or of an object in it. -/
def setAcl
    (m : MemoryStore)
    (name : String)
    (key : Option String)
    (acl : CannedAcl) : Except Error (Unit × MemoryStore) := do
  m.ensureOpen
  let b ← m.bucket name
  match key with
  | none => return ((), m.setBucket name { b with acl })
  | some key =>
      let o ← m.object name key
      return ((), m.setObject name b key { o with acl })

/- The access list of a bucket or of an object in it. -/
def getAcl
    (m : MemoryStore)
    (name : String)
    (key : Option String) : Except Error AccessPolicy := do
  m.ensureOpen
  let b ← m.bucket name
  let acl ←
    match key with
    | none => pure b.acl
    | some key => (m.object name key).map (·.acl)
  return { owner := some m.owner, grants := acl.grants m.owner }

/- A link to an object that ends after so many seconds. -/
def link
    (m : MemoryStore)
    (now : Moment)
    (name key : String)
    (method : LinkMethod)
    (ttl : Nat) : Except Error String := do
  m.ensureOpen
  match Moment.ofNanos? (now.nanos + ttl * Moment.second) with
  | none =>
      .error
        (.general "Invalid expiry: the moment is out of range")
  | some expires =>
      return "memory://" ++ m.owner ++ "/" ++ name ++ "/" ++ key
        ++ "?method=" ++ method.name
        ++ "&expires=" ++ toString expires.seconds

/- Close a store; closing it again changes nothing. -/
def close (m : MemoryStore) : MemoryStore :=
  { m with closed := true }

end MemoryStore

end StorageRouting
