import StorageRouting.Config.Endpoint
import StorageRouting.S3.Message

/-
  Where the requests about a bucket go.

  Key definitions include:
    * `ServiceAddress`
    * `BackendConfig.serviceAddress?`
    * `ServiceAddress.isHostLabel`
    * `ServiceAddress.place`
    * `ServiceAddress.request?`
-/

------------------------------------------------------------
-- Addresses
------------------------------------------------------------

namespace StorageRouting

/-
  The address of a service: the endpoint in parts as it is
  written, and whether its host is a numeric address.
-/
structure ServiceAddress where
  scheme : String
  authority : String
  path : String
  numeric : Bool
deriving DecidableEq, Repr

namespace ServiceAddress

/- Characters that cannot stand in the address of a service. -/
def isUnfit (c : Char) : Bool :=
  c.toNat ≤ 32 || 127 ≤ c.toNat ||
    ['"', '<', '>', '\\', '^', '\x60', '\x7b', '|', '\x7d'].contains c

/- The parts of an endpoint behind its scheme. -/
def ofPlace?
    (url : Url)
    (place : List Char) : Option ServiceAddress :=
  let front := place.takeWhile (· ≠ '#')
  let authority := front.takeWhile (· ≠ '/')
  let path := front.dropWhile (· ≠ '/')
  let host := (url.host.getD "").toList
  let numeric :=
    host.head? == some '[' || (Host.fourBytes? host).isSome
  if front.any isUnfit || front.contains '?' ||
      authority.isEmpty then none
  else
    some
      { scheme := url.scheme, authority := String.ofList authority
        path := String.ofList path, numeric }

end ServiceAddress

/-
  The address of the service of a backend.  There is none when
  requests cannot be sent to the endpoint.
-/
def BackendConfig.serviceAddress?
    (c : BackendConfig) : Option ServiceAddress :=
  match c.endpointUrl with
  | .error _ => none
  | .ok url =>
      if url.scheme = "http" ∨ url.scheme = "https" then
        (Text.cutAt? "://".toList c.endpoint.toList).bind
          (fun cut => ServiceAddress.ofPlace? url cut.2)
      else none

end StorageRouting

------------------------------------------------------------
-- Buckets
------------------------------------------------------------

namespace StorageRouting

namespace ServiceAddress

/- Whether a text can be one label of a host name. -/
def isLabel (cs : List Char) : Bool :=
  let small := fun (c : Char) => c.isLower || c.isDigit
  cs.all (fun c => small c || c == '-') &&
    cs.head?.any small && cs.getLast?.any small

/-
  Whether the name of a bucket can stand in front of a host.
  Points are allowed where no certificate is checked.
-/
def isHostLabel
    (dots : Bool)
    (bucket : String) : Bool :=
  let cs := bucket.toList
  let labels := Text.splitAll '.' cs
  3 ≤ cs.length && cs.length ≤ 63 && labels.all isLabel &&
    (dots || labels.length == 1) && (Host.fourBytes? cs).isNone

/- Whether a bucket is reached through a host of its own. -/
def hasOwnHost
    (a : ServiceAddress)
    (pathStyle : Bool)
    (bucket : String) : Bool :=
  !pathStyle && !a.numeric &&
    isHostLabel (a.scheme == "http") bucket

/- The authority and the path of a bucket. -/
def place
    (a : ServiceAddress)
    (pathStyle : Bool)
    (bucket : String) : String × String :=
  let base :=
    String.ofList
      ((Text.dropEnd? ['/'] a.path.toList).getD a.path.toList)
  if a.hasOwnHost pathStyle bucket then
    (bucket ++ "." ++ a.authority, base)
  else
    (a.authority,
      base ++ "/" ++ Url.percentText Url.reservedSet bucket)

/- A key as it stands in a path. -/
def keyText (key : String) : String :=
  Url.percentText (fun c => c != '/' && Url.reservedSet c) key

/- The start of the names of resources, which are no buckets. -/
def resourceMark : List Char :=
  "arn:".toList

end ServiceAddress

end StorageRouting

------------------------------------------------------------
-- Requests
------------------------------------------------------------

namespace StorageRouting

/- Why no request can be made. -/
inductive Unsendable where
| blankName : Unsendable
| noAddress : Unsendable
deriving DecidableEq, Repr

/-
  What a request is about: a bucket, and perhaps a key in it.
-/
structure Subject where
  bucket : String
  key : Option String
deriving DecidableEq, Repr

namespace Subject

/- Whether a name that is needed is blank. -/
def isBlank (s : Subject) : Bool :=
  Text.isBlankText s.bucket || s.key.any Text.isBlankText

/- A request about a subject, on a service. -/
def request
    (config : BackendConfig)
    (s : Subject)
    (method : RequestMethod)
    (query : List QueryField)
    (headers : List (String × String))
    (body : Bytes) : Except Unsendable Request :=
  if s.isBlank then .error .blankName
  else
    match config.serviceAddress? with
    | none => .error .noAddress
    | some a =>
        let resource :=
          Text.dropStart? ServiceAddress.resourceMark
            s.bucket.toList
        if resource.isSome then .error .noAddress
        else
          let (authority, path) :=
            a.place config.pathStyle s.bucket
          let key := (s.key.map ServiceAddress.keyText).getD ""
          .ok
            { method, scheme := a.scheme, authority
              path := path ++ "/" ++ key, query, headers, body }

end Subject

end StorageRouting
