import StorageRouting.Access
import StorageRouting.Backend.Object
import StorageRouting.Document.Record

/-
  Objects, pages and access lists as dynamic values.

  Key definitions include:
    * `ObjectInfo.toValue`
    * `ObjectInfo.ofValue?`
    * `ListPage.toValue`
    * `ListPage.ofValue?`
    * `AccessPolicy.toValue`
    * `AccessPolicy.ofValue?`
-/

------------------------------------------------------------
-- Objects and Pages
------------------------------------------------------------

namespace StorageRouting

namespace ObjectInfo

/- The fields of an object in declared order. -/
def fields (o : ObjectInfo) : List (String × Value) :=
  [("key", .string o.key)] ++
    Value.optional "size_bytes" (o.size.map .int) ++
    Value.optional "last_modified"
      (o.modified.map (fun m => .string m.rfc3339)) ++
    Value.optional "etag" (o.etag.map .string) ++
    Value.optional "content_type" (o.contentType.map .string) ++
    [("is_dir", .bool o.isDir)]

/- The written form of an object. -/
def toValue (o : ObjectInfo) : Value :=
  .object o.fields

/- Read an object. -/
def ofValue? (v : Value) : Option ObjectInfo := do
  let fs ←
    Record.fields?
      ["key", "size_bytes", "last_modified", "etag",
        "content_type", "is_dir"] false v
  let key ← fs.required "key" Value.toString?
  let size ← fs.optional "size_bytes" Value.toInt64?
  let modified ←
    fs.optional "last_modified"
      (fun v => v.toString?.bind Moment.parse?)
  let etag ← fs.optional "etag" Value.toString?
  let contentType ← fs.optional "content_type" Value.toString?
  let isDir ← fs.required "is_dir" Value.toBool?
  return { key, size, modified, etag, contentType, isDir }

end ObjectInfo

namespace ListPage

/- The written form of a page. -/
def toValue (p : ListPage) : Value :=
  .object
    ([("items", .array (p.items.map ObjectInfo.toValue)),
      ("truncated", .bool p.truncated)] ++
      Value.optional "continuation_token"
        (p.token.map .string))

/- Read a page. -/
def ofValue? (v : Value) : Option ListPage := do
  let fs ←
    Record.fields?
      ["items", "truncated", "continuation_token"] false v
  let items ←
    fs.required "items" (Value.toList? ObjectInfo.ofValue?)
  let truncated ← fs.required "truncated" Value.toBool?
  let token ← fs.optional "continuation_token" Value.toString?
  return { items, truncated, token }

end ListPage

end StorageRouting

------------------------------------------------------------
-- Access Lists
------------------------------------------------------------

namespace StorageRouting

/- Read a canned list. -/
def CannedAcl.ofValue? (v : Value) : Option CannedAcl :=
  (Record.variant? v).bind CannedAcl.ofName?

/- Read a permission. -/
def Permission.ofValue? (v : Value) : Option Permission :=
  (Record.variant? v).bind Permission.ofName?

/- Read a method for which a link is valid. -/
def LinkMethod.ofValue? (v : Value) : Option LinkMethod :=
  (Record.variant? v).bind LinkMethod.ofName?

namespace Grant

/- The written form of a grant. -/
def toValue (g : Grant) : Value :=
  .object
    [("grantee", .string g.grantee),
      ("permission", .string g.permission.name)]

/- Read a grant. -/
def ofValue? (v : Value) : Option Grant := do
  let fs ← Record.fields? ["grantee", "permission"] false v
  let grantee ← fs.required "grantee" Value.toString?
  let permission ←
    fs.required "permission" Permission.ofValue?
  return { grantee, permission }

end Grant

namespace AccessPolicy

/- The written form of an access list. -/
def toValue (p : AccessPolicy) : Value :=
  .object
    (Value.optional "owner" (p.owner.map .string) ++
      [("grants", .array (p.grants.map Grant.toValue))])

/- Read an access list. -/
def ofValue? (v : Value) : Option AccessPolicy := do
  let fs ← Record.fields? ["owner", "grants"] false v
  let owner ← fs.optional "owner" Value.toString?
  let grants ←
    fs.required "grants" (Value.toList? Grant.ofValue?)
  return { owner, grants }

end AccessPolicy

end StorageRouting
