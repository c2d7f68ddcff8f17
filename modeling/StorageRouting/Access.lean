import StorageRouting.Text.Blank

/-
  Access control: canned lists, the grants they stand for, and
  the methods for which a link can be issued.

  Key definitions include:
    * `CannedAcl`
    * `CannedAcl.grants`
    * `AccessPolicy`
    * `LinkMethod`
-/

------------------------------------------------------------
-- Grants
------------------------------------------------------------

namespace StorageRouting

/- What a grant allows. -/
inductive Permission where
| fullControl : Permission
| read : Permission
| write : Permission
| readAcp : Permission
| writeAcp : Permission
deriving DecidableEq, Repr

namespace Permission

/- The written form of a permission. -/
def name : Permission → String
| .fullControl => "FULL_CONTROL"
| .read => "READ"
| .write => "WRITE"
| .readAcp => "READ_ACP"
| .writeAcp => "WRITE_ACP"

/- All permissions. -/
def all : List Permission :=
  [.fullControl, .read, .write, .readAcp, .writeAcp]

/- The permission of a written form. -/
def ofName? (s : String) : Option Permission :=
  all.find? (fun p => p.name == s)

end Permission

/- A permission given to a user or a group. -/
structure Grant where
  grantee : String
  permission : Permission
deriving DecidableEq, Repr

/- The owner and the grants of a bucket or an object. -/
structure AccessPolicy where
  owner : Option String
  grants : List Grant
deriving DecidableEq, Repr, Inhabited

end StorageRouting

------------------------------------------------------------
-- Canned Lists
------------------------------------------------------------

namespace StorageRouting

/- A named access list. -/
inductive CannedAcl where
| personal : CannedAcl
| publicRead : CannedAcl
| publicReadWrite : CannedAcl
| authenticatedRead : CannedAcl
deriving DecidableEq, Repr, Inhabited

namespace CannedAcl

/- The written form of a canned list. -/
def name : CannedAcl → String
| .personal => "private"
| .publicRead => "public-read"
| .publicReadWrite => "public-read-write"
| .authenticatedRead => "authenticated-read"

/- All canned lists. -/
def all : List CannedAcl :=
  [.personal, .publicRead, .publicReadWrite, .authenticatedRead]

/- The canned list of exactly that written form. -/
def ofName? (s : String) : Option CannedAcl :=
  all.find? (fun a => a.name == s)

/- The canned list of a written form in any letter case. -/
def parse? (s : String) : Option CannedAcl :=
  ofName? (Text.lowerAscii s)

/- What is said about a text that names no canned list. -/
def invalidText (s : String) : String :=
  "Invalid canned ACL: " ++ s

/- The group of everybody. -/
def allUsers : String :=
  "http://acs.amazonaws.com/groups/global/AllUsers"

/- The group of everybody who signs in. -/
def authenticatedUsers : String :=
  "http://acs.amazonaws.com/groups/global/AuthenticatedUsers"

/- The grants that a list means beyond the owner's. -/
def publicGrants : CannedAcl → List Grant
| .personal => []
| .publicRead => [⟨allUsers, .read⟩]
| .publicReadWrite => [⟨allUsers, .read⟩, ⟨allUsers, .write⟩]
| .authenticatedRead => [⟨authenticatedUsers, .read⟩]

/- The grants that a list means: the owner has full control. -/
def grants
    (acl : CannedAcl)
    (owner : String) : List Grant :=
  ⟨owner, .fullControl⟩ :: acl.publicGrants

end CannedAcl

end StorageRouting

------------------------------------------------------------
-- Link Methods
------------------------------------------------------------

namespace StorageRouting

/- The request method for which a link is valid. -/
inductive LinkMethod where
| get : LinkMethod
| put : LinkMethod
| delete : LinkMethod
| head : LinkMethod
deriving DecidableEq, Repr, Inhabited

namespace LinkMethod

/- The written form of a method. -/
def name : LinkMethod → String
| .get => "GET"
| .put => "PUT"
| .delete => "DELETE"
| .head => "HEAD"

/- All methods. -/
def all : List LinkMethod :=
  [.get, .put, .delete, .head]

/- The method of exactly that written form. -/
def ofName? (s : String) : Option LinkMethod :=
  all.find? (fun m => m.name == s)

/- The method of a written form in any letter case. -/
def parse? (s : String) : Option LinkMethod :=
  ofName? (Text.upperAscii s)

/- What is said about a text that names no method. -/
def invalidText (s : String) : String :=
  "Unsupported presign method: " ++ s

end LinkMethod

end StorageRouting
