import StorageRouting.Credential.Resolver
import StorageRouting.Routing.Invocation
import StorageRouting.S3.Refusal

/-
  Connections to services, and requests over them.

  Key definitions include:
    * `S3Connection`
    * `S3Connection.ensureOpen`
    * `S3Connection.send`
    * `S3Connection.call`
-/

------------------------------------------------------------
-- Connections
------------------------------------------------------------

namespace StorageRouting

/-
  A connection to the service of a backend: its configuration,
  the plaintext credentials, where it is noted that it was
  closed, and the way to the service.
-/
structure S3Connection (σ : Type) where
  config : BackendConfig
  accessKey : String
  secretKey : String
  closed : Slot σ Bool
  wire : Wire σ
  now : σ → Moment

/- What is sent in a request besides what it is about. -/
structure Sending where
  method : RequestMethod
  query : List QueryField
  headers : List (String × String)
  body : Bytes

namespace Sending

/- A request that has nothing but a method. -/
def bare (method : RequestMethod) : Sending :=
  ⟨method, [], [], Bytes.empty⟩

/- A request that names itself in its query. -/
def named
    (method : RequestMethod)
    (name : String) : Sending :=
  ⟨method, [QueryField.of "x-id" name], [], Bytes.empty⟩

/- The header that gives the length of a body. -/
def length (n : Nat) : String × String :=
  ("content-length", toString n)

/- The header that gives the type of a body. -/
def type (t : String) : String × String :=
  ("content-type", t)

/- The type of a body of bytes. -/
def bytesType : String :=
  "application/octet-stream"

/- The type of a body that is a document. -/
def documentType : String :=
  "application/xml"

/- A request with an empty document for a body. -/
def emptyDocument
    (query : List QueryField)
    (headers : List (String × String)) : Sending :=
  { method := .put, query
    headers := [length 0, type documentType] ++ headers
    body := Bytes.empty }

/- Whether all headers can stand in a request. -/
def isWritable (m : Sending) : Bool :=
  m.headers.all (fun h => Header.isValue h.2)

end Sending

namespace S3Connection

variable {σ α : Type}

/- The failure of every operation after closing. -/
def closedError (c : S3Connection σ) : Error :=
  .backendOperationFailed
    ("Backend '" ++ c.config.name ++ "' is closed")

/- Refuse to go on after closing. -/
def ensureOpen
    (c : S3Connection σ)
    (s : σ) : Except Error Unit :=
  if c.closed.get s then .error c.closedError else .ok ()

/- Carry out an action unless the connection was closed. -/
def whenOpen
    (c : S3Connection σ)
    (a : Action σ α) : Action σ α :=
  fun s =>
    match c.ensureOpen s with
    | .error e => (.error e, s)
    | .ok _ => a s

/-
  Send a request about a subject; none is made with a header
  that cannot be written.
-/
def send
    (c : S3Connection σ)
    (call : ServiceCall)
    (subject : Subject)
    (m : Sending)
    (s : σ) : Except CallFailure Response × σ :=
  if m.isWritable then
    call.send c.wire
      (subject.request c.config m.method m.query m.headers m.body) s
  else (.error .unmade, s)

/-
  Send a request and read the response; what cannot be read
  counts as refused.
-/
def call
    (c : S3Connection σ)
    (call : ServiceCall)
    (subject : Subject)
    (m : Sending)
    (read : Response → Option α)
    (s : σ) : Except CallFailure α × σ :=
  match c.send call subject m s with
  | (.error f, s) => (.error f, s)
  | (.ok r, s) =>
      match read r with
      | some a => (.ok a, s)
      | none => (.error (ServiceCall.unreadable r), s)

end S3Connection

/- What is missing when a bucket is. -/
def Subject.missingBucket (s : Subject) : String :=
  "Bucket not found: " ++ s.bucket

/- What is missing when an object is. -/
def Subject.missingObject (s : Subject) : String :=
  "Object not found: " ++ s.bucket ++ "/" ++ s.key.getD ""

end StorageRouting
