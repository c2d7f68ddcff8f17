import StorageRouting.Backend.Store
import StorageRouting.Document.Xml.Scope
import StorageRouting.S3.Address

/-
  How calls of a service fail, and what is told about it.

  Key definitions include:
    * `ServiceCall`
    * `CallFailure`
    * `CallFailure.message`
    * `CallFailure.isMissing`
    * `CallFailure.toError`
    * `ServiceCall.judge`
    * `ServiceCall.send`
-/

------------------------------------------------------------
-- Calls
------------------------------------------------------------

namespace StorageRouting

/- What can be asked of a service. -/
inductive ServiceCall where
| putObject : ServiceCall
| getObject : ServiceCall
| deleteObject : ServiceCall
| headObject : ServiceCall
| headBucket : ServiceCall
| listObjects : ServiceCall
| createBucket : ServiceCall
| deleteBucket : ServiceCall
| setObjectAcl : ServiceCall
| setBucketAcl : ServiceCall
| getObjectAcl : ServiceCall
| getBucketAcl : ServiceCall
| createUpload : ServiceCall
| uploadPart : ServiceCall
| completeUpload : ServiceCall
| abortUpload : ServiceCall
deriving DecidableEq, Repr

namespace ServiceCall

/- The failures that are known by name. -/
def knownFailures : ServiceCall → List String
| .putObject =>
    ["EncryptionTypeMismatch", "InvalidRequest",
      "InvalidWriteOffset", "TooManyParts"]
| .getObject => ["InvalidObjectState", "NoSuchKey"]
| .headObject => ["NotFound"]
| .headBucket => ["NotFound"]
| .listObjects => ["NoSuchBucket"]
| .createBucket =>
    ["BucketAlreadyExists", "BucketAlreadyOwnedByYou"]
| .setObjectAcl => ["NoSuchKey"]
| .getObjectAcl => ["NoSuchKey"]
| .abortUpload => ["NoSuchUpload"]
| _ => []

/- Whether the content of a response is read as it arrives. -/
def isStream : ServiceCall → Bool
| .getObject => true
| _ => false

end ServiceCall

end StorageRouting

------------------------------------------------------------
-- Failures
------------------------------------------------------------

namespace StorageRouting

/-
  Why a call failed: no request could be made, the server was
  not reached, its response broke off, or it refused.
-/
inductive CallFailure where
| unmade : CallFailure
| unreached : CallFailure
| brokenOff (status : Nat) : CallFailure
| refused
    (status : Nat)
    (what : String)
    (note : Option String) : CallFailure
deriving DecidableEq, Repr

namespace CallFailure

/- The text shown for a failure. -/
def message : CallFailure → String
| .unmade => "Request construction failed: ..."
| .unreached => "Network dispatch error: ..."
| .brokenOff _ => "Response error: ..."
| .refused _ what none => "Service error: " ++ what
| .refused _ what (some note) =>
    "Service error: " ++ what ++ " (code: " ++ note ++ ")"

/- The status of the response, if there is one. -/
def status? : CallFailure → Option Nat
| .brokenOff status => some status
| .refused status _ _ => some status
| _ => none

/- The names of failures that tell of something missing. -/
def missingNames : List String :=
  ["NotFound", "NoSuchKey", "NoSuchBucket"]

/- Whether a failure tells of something missing. -/
def isMissing (f : CallFailure) : Bool :=
  f.status? == some 404 ||
    missingNames.any (Text.mentions f.message)

/- The error of a failed operation, which misses a subject. -/
def toError
    (missing : String)
    (f : CallFailure) : Error :=
  if f.isMissing then .notFound missing
  else .backendOperationFailed f.message

/- The failure of a request that cannot be made. -/
def ofUnsendable : Unsendable → CallFailure
| .blankName => .unmade
| .noAddress => .unreached

end CallFailure

end StorageRouting

------------------------------------------------------------
-- Refusals
------------------------------------------------------------

namespace StorageRouting

/- What the document of a refusal says. -/
structure RefusalNote where
  code : Option String
  message : Option String

namespace RefusalNote

/- Take one element of the document. -/
def add
    (n : RefusalNote)
    (s : Xml.Scope) : Option (RefusalNote × Xml.Scope) :=
  if s.isNamed "Code" then
    s.text?.map (fun (t, s) => ({ n with code := some t }, s))
  else if s.isNamed "Message" then
    s.text?.map (fun (t, s) => ({ n with message := some t }, s))
  else some (n, s)

/- Read the document of a refusal. -/
def ofBytes? (b : Bytes) : Option RefusalNote := do
  let root ← Xml.rootOfBytes? b
  let (n, _) ← root.foldChildren add ⟨none, none⟩
  return n

/- Whether a document is that of a refusal. -/
def isRefusal (b : Bytes) : Bool :=
  (Xml.rootOfBytes? b).any (·.isNamed "Error")

end RefusalNote

namespace ServiceCall

/- The text for a refusal that says nothing known. -/
def unhandled : String :=
  "unhandled error"

/- The text for a refusal with a code. -/
def describeCode
    (call : ServiceCall)
    (code : String)
    (message : Option String) : String :=
  if call.knownFailures.contains code then
    match message with
    | some m => code ++ ": " ++ m
    | none => code
  else unhandled ++ " (" ++ code ++ ")"

/- The text for a refusal. -/
def describe
    (call : ServiceCall)
    (r : Response) : String :=
  if r.body.size = 0 then
    if r.status = 404 then call.describeCode "NotFound" none
    else unhandled
  else
    match RefusalNote.ofBytes? r.body with
    | some { code := some code, message } =>
        call.describeCode code message
    | _ => unhandled

/- The failure of a refused call. -/
def refusal
    (call : ServiceCall)
    (r : Response) : CallFailure :=
  .refused r.status (call.describe r) (r.header? "x-amz-error-code")

/- The failure of a response that does not read as it should. -/
def unreadable (r : Response) : CallFailure :=
  .refused r.status unhandled (r.header? "x-amz-error-code")

/-
  Tell success from failure.  A document of a refusal counts as
  one whatever the status.
-/
def judge
    (call : ServiceCall)
    (r : Response) : Except CallFailure Response :=
  if call.isStream && r.isSuccess then .ok r
  else if r.isBroken then .error (.brokenOff r.status)
  else if !r.isSuccess || RefusalNote.isRefusal r.body then
    .error (call.refusal r)
  else .ok r

end ServiceCall

end StorageRouting

------------------------------------------------------------
-- Sending
------------------------------------------------------------

namespace StorageRouting

namespace ServiceCall

variable {σ : Type}

/- Send the request of a call and judge the response. -/
def send
    (call : ServiceCall)
    (wire : Wire σ)
    (request : Except Unsendable Request)
    (s : σ) : Except CallFailure Response × σ :=
  match request with
  | .error e => (.error (CallFailure.ofUnsendable e), s)
  | .ok request =>
      match wire request s with
      | (none, s) => (.error .unreached, s)
      | (some r, s) => (call.judge (r.arriving request.method), s)

end ServiceCall

end StorageRouting
