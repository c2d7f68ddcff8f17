import StorageRouting.Bytes.Basic
import StorageRouting.Number.Decimal
import StorageRouting.Text.Blank
import StorageRouting.Url.Encoding

/-
  Requests to a server and its responses.

  Key definitions include:
    * `Request`
    * `Request.target`
    * `Response`
    * `Wire`
-/

------------------------------------------------------------
-- Requests
------------------------------------------------------------

namespace StorageRouting

/- What a request asks a server to do. -/
inductive RequestMethod where
| get : RequestMethod
| put : RequestMethod
| post : RequestMethod
| delete : RequestMethod
| head : RequestMethod
deriving DecidableEq, Repr

namespace RequestMethod

/- The name of a method. -/
def name : RequestMethod → String
| .get => "GET"
| .put => "PUT"
| .post => "POST"
| .delete => "DELETE"
| .head => "HEAD"

end RequestMethod

/- A field of a query: a name, and perhaps a value. -/
structure QueryField where
  name : String
  value : Option String
deriving DecidableEq, Repr

namespace QueryField

/- A field with a value. -/
def of (name value : String) : QueryField :=
  ⟨name, some value⟩

/- A field without a value. -/
def flag (name : String) : QueryField :=
  ⟨name, none⟩

/- A field as it is sent. -/
def text (f : QueryField) : String :=
  match f.value with
  | none => f.name
  | some v => f.name ++ "=" ++ Url.percentText Url.reservedSet v

end QueryField

/- A request; its path is written as it is sent. -/
structure Request where
  method : RequestMethod
  scheme : String
  authority : String
  path : String
  query : List QueryField
  headers : List (String × String)
  body : Bytes

namespace Request

/- A request as one URL. -/
def target (r : Request) : String :=
  let place := r.scheme ++ "://" ++ r.authority ++ r.path
  if r.query.isEmpty then place
  else place ++ "?" ++ Text.joinWith "&" (r.query.map (·.text))

end Request

end StorageRouting

------------------------------------------------------------
-- Responses
------------------------------------------------------------

namespace StorageRouting

/- A response as a server gives it. -/
structure Response where
  status : Nat
  headers : List (String × String)
  body : Bytes

namespace Response

/- The value of a header; names are compared without case. -/
def header?
    (r : Response)
    (name : String) : Option String :=
  (r.headers.find?
    (fun h => Text.lowerAscii h.1 == name)).map Prod.snd

/- Whether a status tells of success. -/
def isSuccess (r : Response) : Bool :=
  200 ≤ r.status && r.status < 300

/- The length that a response announces, if it does. -/
def announced? (r : Response) : Option Nat :=
  (r.header? "content-length").bind
    (fun v => Decimal.digits64? v.toList)

/- Whether the connection breaks off before the body ends. -/
def isBroken (r : Response) : Bool :=
  match r.announced? with
  | some n => r.body.size < n
  | none => false

/- A response as it arrives for a method. -/
def arriving
    (method : RequestMethod)
    (r : Response) : Response :=
  if method = .head ∨ r.status = 204 ∨ r.status = 304 then
    { r with
      body := Bytes.empty
      headers :=
        r.headers.filter
          (fun h => Text.lowerAscii h.1 != "content-length") }
  else
    match r.announced? with
    | some n => { r with body := r.body.extract 0 n }
    | none => r

end Response

/-
  A way to send a request and to receive the response; there is
  none when the server cannot be reached.
-/
abbrev Wire (σ : Type) :=
  Request → StateM σ (Option Response)

end StorageRouting
