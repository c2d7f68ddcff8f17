import StorageRouting.Access
import StorageRouting.Backend.Object
import StorageRouting.Document.Xml.Scope
import StorageRouting.Number.Decimal

/-
  The documents in which a service answers.

  Key definitions include:
    * `ListPage.ofDocument?`
    * `AccessPolicy.ofDocument?`
    * `UploadNote.ofDocument?`
-/

------------------------------------------------------------
-- Fields
------------------------------------------------------------

namespace StorageRouting

namespace Xml

namespace Scope

variable {α : Type}

/- Read the text of an element with a reader. -/
def value?
    (s : Scope)
    (read : String → Option α) : Option (α × Scope) := do
  let (t, s) ← s.text?
  let a ← read t
  return (a, s)

/- Read the text of an element into a record. -/
def into?
    (s : Scope)
    (read : String → Option α)
    {β : Type}
    (put : α → β) : Option (β × Scope) :=
  (s.value? read).map (fun (a, s) => (put a, s))

/- The outermost element of a document, if it has a name. -/
def ofDocument?
    (name : String)
    (b : Bytes) : Option Scope := do
  let root ← rootOfBytes? b
  if root.isNamed name then some root else none

/- A word for a truth value. -/
def bool? (s : String) : Option Bool :=
  if s = "true" then some true
  else if s = "false" then some false
  else none

/- Read an element whose content does not matter. -/
def pass?
    {β : Type}
    (acc : β)
    (s : Scope) : Option (β × Scope) :=
  s.into? some (fun _ => acc)

end Scope

end Xml

end StorageRouting

------------------------------------------------------------
-- Owners
------------------------------------------------------------

namespace StorageRouting

/- Who owns something or is granted something. -/
structure Party where
  id : Option String
  uri : Option String
  email : Option String

namespace Party

/- Take one element of a party. -/
def add
    (p : Party)
    (s : Xml.Scope) : Option (Party × Xml.Scope) :=
  match s.tag.name.name with
  | "ID" => s.into? some (fun t => { p with id := some t })
  | "URI" => s.into? some (fun t => { p with uri := some t })
  | "EmailAddress" =>
      s.into? some (fun t => { p with email := some t })
  | "DisplayName" => s.pass? p
  | _ => some (p, s)

/- Read a party. -/
def read? (s : Xml.Scope) : Option (Party × Xml.Scope) :=
  s.foldChildren add ⟨none, none, none⟩

/- What a party is called: its number, address or mail. -/
def name? (p : Party) : Option String :=
  p.id.or (p.uri.or p.email)

end Party

end StorageRouting

------------------------------------------------------------
-- Listings
------------------------------------------------------------

namespace StorageRouting

/- A tag without the quotes around it. -/
def ObjectInfo.bareTag (s : String) : String :=
  let cs := s.toList.dropWhile (· == '"')
  String.ofList (cs.reverse.dropWhile (· == '"')).reverse

namespace ObjectInfo

/- Take one element of a listed object. -/
def addField
    (o : ObjectInfo)
    (s : Xml.Scope) : Option (ObjectInfo × Xml.Scope) :=
  match s.tag.name.name with
  | "Key" => s.into? some (fun t => { o with key := t })
  | "Size" =>
      s.into? (fun t => Decimal.signed? 64 t.toList)
        (fun n => { o with size := some n })
  | "LastModified" =>
      s.into? Moment.readFullSecond?
        (fun n => { o with modified := Moment.ofParts? n 0 })
  | "ETag" =>
      s.into? some (fun t => { o with etag := some (bareTag t) })
  | "StorageClass" => s.pass? o
  | "ChecksumAlgorithm" => s.pass? o
  | "ChecksumType" => s.pass? o
  | "Owner" => (Party.read? s).map (fun (_, s) => (o, s))
  | _ => some (o, s)

/- Read a listed object; without a size it counts as empty. -/
def read? (s : Xml.Scope) : Option (ObjectInfo × Xml.Scope) :=
  s.foldChildren addField (file "" 0)

/- Read the common start of several keys, if it is given. -/
def readStart?
    (s : Xml.Scope) : Option (Option String × Xml.Scope) :=
  s.foldChildren
    (fun acc s =>
      if s.isNamed "Prefix" then s.into? some some
      else some (acc, s))
    none

end ObjectInfo

/- What was read of a listing so far, in reversed order. -/
structure Listing where
  dirs : List ObjectInfo
  files : List ObjectInfo
  truncated : Bool
  token : Option String

namespace Listing

/- Take one element of a listing. -/
def add
    (l : Listing)
    (s : Xml.Scope) : Option (Listing × Xml.Scope) :=
  match s.tag.name.name with
  | "CommonPrefixes" =>
      (ObjectInfo.readStart? s).map (fun (key, s) =>
        ({ l with
            dirs := (key.map ObjectInfo.dir).toList ++ l.dirs },
          s))
  | "Contents" =>
      (ObjectInfo.read? s).map (fun (o, s) =>
        ({ l with files := o :: l.files }, s))
  | "IsTruncated" =>
      s.into? Xml.Scope.bool? (fun b => { l with truncated := b })
  | "NextContinuationToken" =>
      s.into? some (fun t => { l with token := some t })
  | "MaxKeys" =>
      s.into? (fun t => Decimal.signed? 32 t.toList) (fun _ => l)
  | "KeyCount" =>
      s.into? (fun t => Decimal.signed? 32 t.toList) (fun _ => l)
  | "Name" => s.pass? l
  | "Prefix" => s.pass? l
  | "Delimiter" => s.pass? l
  | "EncodingType" => s.pass? l
  | "ContinuationToken" => s.pass? l
  | "StartAfter" => s.pass? l
  | _ => some (l, s)

end Listing

/- Read a page of a listing: directories come first. -/
def ListPage.ofDocument? (b : Bytes) : Option ListPage := do
  let root ← Xml.Scope.ofDocument? "ListBucketResult" b
  let (l, _) ← root.foldChildren Listing.add ⟨[], [], false, none⟩
  return {
    items := l.dirs.reverse ++ l.files.reverse
    truncated := l.truncated, token := l.token }

end StorageRouting

------------------------------------------------------------
-- Access Lists
------------------------------------------------------------

namespace StorageRouting

namespace Grant

/- Take one element of a grant. -/
def addField
    (g : Option Party × Option String)
    (s : Xml.Scope) :
    Option ((Option Party × Option String) × Xml.Scope) :=
  match s.tag.name.name with
  | "Grantee" =>
      (Party.read? s).map (fun (p, s) => ((some p, g.2), s))
  | "Permission" => s.into? some (fun t => (g.1, some t))
  | _ => some (g, s)

/- A grant of which all parts are known. -/
def ofParts?
    (party : Option Party)
    (permission : Option String) : Option Grant := do
  let grantee ← party.bind Party.name?
  let permission ← permission.bind Permission.ofName?
  return { grantee, permission }

/- Read a list of grants; those not fully known are left out. -/
def readAll?
    (s : Xml.Scope) : Option (List Grant × Xml.Scope) :=
  s.foldChildren
    (fun grants s =>
      if s.isNamed "Grant" then
        (s.foldChildren addField (none, none)).map (fun (g, s) =>
          (grants ++ (ofParts? g.1 g.2).toList, s))
      else some (grants, s))
    []

end Grant

namespace AccessPolicy

/- Take one element of an access policy. -/
def addField
    (p : AccessPolicy)
    (s : Xml.Scope) : Option (AccessPolicy × Xml.Scope) :=
  match s.tag.name.name with
  | "Owner" =>
      (Party.read? s).map (fun (o, s) =>
        ({ p with owner := o.id }, s))
  | "AccessControlList" =>
      (Grant.readAll? s).map (fun (grants, s) =>
        ({ p with grants }, s))
  | _ => some (p, s)

/- Read an access policy. -/
def ofDocument? (b : Bytes) : Option AccessPolicy := do
  let root ← Xml.Scope.ofDocument? "AccessControlPolicy" b
  let (p, _) ← root.foldChildren addField ⟨none, []⟩
  return p

end AccessPolicy

end StorageRouting

------------------------------------------------------------
-- Uploads
------------------------------------------------------------

namespace StorageRouting

/- What a service says about an upload in parts. -/
structure UploadNote where
  id : Option String
  tag : Option String

namespace UploadNote

/- Names of elements that hold text of no importance. -/
def passed : List String :=
  ["Bucket", "Key", "Location", "ChecksumType", "ChecksumCRC32",
    "ChecksumCRC32C", "ChecksumCRC64NVME", "ChecksumSHA1",
    "ChecksumSHA256"]

/- Take one element of the note. -/
def add
    (n : UploadNote)
    (s : Xml.Scope) : Option (UploadNote × Xml.Scope) :=
  match s.tag.name.name with
  | "UploadId" => s.into? some (fun t => { n with id := some t })
  | "ETag" => s.into? some (fun t => { n with tag := some t })
  | name => if passed.contains name then s.pass? n else some (n, s)

/- Read a note in an element of a name. -/
def ofDocument?
    (name : String)
    (b : Bytes) : Option UploadNote := do
  let root ← Xml.Scope.ofDocument? name b
  let (n, _) ← root.foldChildren add ⟨none, none⟩
  return n

/- The note that opens an upload. -/
def opened? (b : Bytes) : Option UploadNote :=
  ofDocument? "InitiateMultipartUploadResult" b

/- The note that ends an upload. -/
def completed? (b : Bytes) : Option UploadNote :=
  ofDocument? "CompleteMultipartUploadResult" b

end UploadNote

end StorageRouting
