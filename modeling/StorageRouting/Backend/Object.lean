import StorageRouting.Bytes.Basic
import StorageRouting.Error
import StorageRouting.Time.Moment

/-
  Objects, their bodies and the pages of a listing.

  Key definitions include:
    * `ObjectInfo`
    * `ListOptions`
    * `ListPage`
    * `Body`
    * `Body.collect`
-/

------------------------------------------------------------
-- Objects and Listings
------------------------------------------------------------

namespace StorageRouting

/-
  What is known about an object, or about the common start of
  several keys, which counts as a directory.
-/
structure ObjectInfo where
  key : String
  size : Option Int
  modified : Option Moment
  etag : Option String
  contentType : Option String
  isDir : Bool
deriving DecidableEq, Repr, Inhabited

namespace ObjectInfo

/- An object of which only key and size are known. -/
def file
    (key : String)
    (size : Int) : ObjectInfo :=
  { key, size := some size, modified := none, etag := none
    contentType := none, isDir := false }

/- A directory. -/
def dir (key : String) : ObjectInfo :=
  { key, size := none, modified := none, etag := none
    contentType := none, isDir := true }

end ObjectInfo

/- What one listing request asks for. -/
structure ListOptions where
  keyStart : Option String
  maxKeys : Option Int
  token : Option String
  recursive : Bool
deriving DecidableEq, Repr

namespace ListOptions

/- Ask for the first page of everything. -/
def all : ListOptions :=
  { keyStart := none, maxKeys := none, token := none
    recursive := false }

instance : Inhabited ListOptions :=
  ⟨all⟩

end ListOptions

/- One page of a listing. -/
structure ListPage where
  items : List ObjectInfo
  truncated : Bool
  token : Option String
deriving DecidableEq, Repr, Inhabited

end StorageRouting

------------------------------------------------------------
-- Bodies
------------------------------------------------------------

namespace StorageRouting

/-
  The body of an object as it arrives: chunks in order, or an
  error in place of the rest.
-/
abbrev Body :=
  List (Except Error Bytes)

namespace Body

/- A body in one chunk. -/
def ofBytes (b : Bytes) : Body :=
  [.ok b]

/-
  Put all chunks together, or answer the first error.
-/
def collectFrom (acc : Bytes) : Body → Except Error Bytes
| [] => .ok acc
| .ok chunk :: rest => collectFrom (acc ++ chunk) rest
| .error e :: _ => .error e

/- The whole content of a body. -/
def collect (body : Body) : Except Error Bytes :=
  collectFrom Bytes.empty body

end Body

end StorageRouting
