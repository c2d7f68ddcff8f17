import StorageRouting.S3.Connection
import StorageRouting.S3.Parts
import StorageRouting.S3.Results

/-
  Storing objects: in one request, or in parts when the body is
  long.

  Key definitions include:
    * `S3Connection.partSize`
    * `S3Connection.putWhole`
    * `S3Connection.uploadParts`
    * `S3Connection.putInParts`
    * `S3Connection.put`
-/

------------------------------------------------------------
-- Lengths
------------------------------------------------------------

namespace StorageRouting

/- Refuse a body whose length is not the announced one. -/
def Subject.checkLength
    (s : Subject)
    (expected : Option Nat)
    (actual : Nat) : Except Error Unit :=
  match expected with
  | none => .ok ()
  | some n =>
      if n = actual then .ok ()
      else
        .error
          (.backendOperationFailed
            ("Body of " ++ s.bucket ++ "/" ++ s.key.getD "" ++
              " is " ++ toString actual ++ " bytes, expected " ++
              toString n))

end StorageRouting

------------------------------------------------------------
-- One Request
------------------------------------------------------------

namespace StorageRouting

namespace S3Connection

variable {σ : Type}

/- The error of an operation that puts something in a bucket. -/
def putError
    (subject : Subject)
    (f : CallFailure) : Error :=
  f.toError subject.missingBucket

/- The request that stores a whole object. -/
def wholeSending
    (data : Bytes)
    (contentType : Option String) : Sending :=
  { Sending.named .put "PutObject" with
    headers :=
      [Sending.length data.size,
        Sending.type (contentType.getD Sending.bytesType)]
    body := data }

/- Store a whole object; the answer is its tag. -/
def putWhole
    (c : S3Connection σ)
    (subject : Subject)
    (data : Bytes)
    (contentType : Option String) : Action σ (Option String) :=
  fun s =>
    match c.send .putObject subject (wholeSending data contentType) s
    with
    | (.error f, s) => (.error (putError subject f), s)
    | (.ok r, s) =>
        (.ok ((r.header? "etag").map ObjectInfo.bareTag), s)

end S3Connection

end StorageRouting

------------------------------------------------------------
-- Parts
------------------------------------------------------------

namespace StorageRouting

/- A part that was stored: its number and its tag. -/
structure StoredPart where
  number : Nat
  tag : Option String
deriving DecidableEq, Repr

namespace StoredPart

/- A part in the document that completes an upload. -/
def text (p : StoredPart) : String :=
  let tag := (p.tag.map (Xml.textElement "ETag")).getD ""
  Xml.element "Part"
    (tag ++ Xml.textElement "PartNumber" (toString p.number))

/- The document that completes an upload. -/
def document (parts : List StoredPart) : String :=
  "<CompleteMultipartUpload " ++
    "xmlns=\"http://s3.amazonaws.com/doc/2006-03-01/\">" ++
    String.join (parts.map text) ++ "</CompleteMultipartUpload>"

end StoredPart

namespace S3Connection

variable {σ : Type}

/- The size of all parts but the last: eight mebibytes. -/
def partSize : Nat :=
  8 * 1024 * 1024

/- The field of a query that names an upload. -/
def uploadField (id : String) : QueryField :=
  QueryField.of "uploadId" id

/- Send a request about an upload, which needs its number. -/
def sendUpload
    (c : S3Connection σ)
    (call : ServiceCall)
    (subject : Subject)
    (id : String)
    (m : Sending)
    (s : σ) : Except CallFailure Response × σ :=
  if id.isEmpty then (.error .unmade, s)
  else c.send call subject m s

/- The request that stores one part. -/
def partSending
    (id : String)
    (number : Nat)
    (part : Bytes) : Sending :=
  { method := .put
    query :=
      [QueryField.of "x-id" "UploadPart",
        QueryField.of "partNumber" (toString number),
        uploadField id]
    headers :=
      [Sending.length part.size, Sending.type Sending.bytesType]
    body := part }

/- Store one part. -/
def uploadPart
    (c : S3Connection σ)
    (subject : Subject)
    (id : String)
    (number : Nat)
    (part : Bytes) : Action σ StoredPart :=
  fun s =>
    let sent :=
      c.sendUpload .uploadPart subject id
        (partSending id number part) s
    match sent with
    | (.error f, s) => (.error (putError subject f), s)
    | (.ok r, s) => (.ok ⟨number, r.header? "etag"⟩, s)

/-
  Store a part and all that follow, at most so many.  The answer
  tells the stored parts and their size together.
-/
def uploadFrom
    (c : S3Connection σ)
    (size : Nat)
    (subject : Subject)
    (id : String) :
    Nat → List StoredPart → Nat → Bytes → PartSource →
      Action σ (List StoredPart × Nat)
| 0, parts, total, _, _, s => (.ok (parts, total), s)
| limit + 1, parts, total, part, source, s =>
    match c.uploadPart subject id (parts.length + 1) part s with
    | (.error e, s) => (.error e, s)
    | (.ok stored, s) =>
        let parts := parts ++ [stored]
        let total := total + part.size
        match source.next size with
        | (.error e, _) => (.error e, s)
        | (.ok none, _) => (.ok (parts, total), s)
        | (.ok (some part), source) =>
            uploadFrom c size subject id limit parts total part
              source s

/- Store all parts of a body of the announced length. -/
def uploadParts
    (c : S3Connection σ)
    (size : Nat)
    (subject : Subject)
    (id : String)
    (first : Bytes)
    (source : PartSource)
    (expected : Option Nat) :
    Action σ (List StoredPart × Nat) :=
  fun s =>
    match c.uploadFrom size subject id (source.bound + 1) [] 0 first
        source s with
    | (.error e, s) => (.error e, s)
    | (.ok (parts, total), s) =>
        match subject.checkLength expected total with
        | .error e => (.error e, s)
        | .ok _ => (.ok (parts, total), s)

end S3Connection

end StorageRouting

------------------------------------------------------------
-- Uploads
------------------------------------------------------------

namespace StorageRouting

namespace S3Connection

variable {σ : Type}

/- The request that opens an upload. -/
def openSending (contentType : Option String) : Sending :=
  { Sending.bare .post with
    query := [QueryField.flag "uploads"]
    headers := (contentType.map Sending.type).toList }

/- Open an upload; the answer is its number. -/
def openUpload
    (c : S3Connection σ)
    (subject : Subject)
    (contentType : Option String) : Action σ String :=
  fun s =>
    let answer :=
      c.call .createUpload subject (openSending contentType)
        (fun r => UploadNote.opened? r.body) s
    match answer with
    | (.error f, s) => (.error (putError subject f), s)
    | (.ok { id := some id, .. }, s) => (.ok id, s)
    | (.ok _, s) =>
        (.error
          (.backendOperationFailed
            ("No upload id returned for " ++ subject.bucket ++ "/" ++
              subject.key.getD "")), s)

/- The request that gives an upload up. -/
def abortSending (id : String) : Sending :=
  { Sending.bare .delete with
    query :=
      [QueryField.of "x-id" "AbortMultipartUpload",
        uploadField id] }

/- Give an upload up, so that no parts stay behind. -/
def abortUpload
    (c : S3Connection σ)
    (subject : Subject)
    (id : String)
    (s : σ) : σ :=
  (c.sendUpload .abortUpload subject id (abortSending id) s).2

/- The request that completes an upload. -/
def completeSending
    (id : String)
    (parts : List StoredPart) : Sending :=
  let body := Bytes.ofString (StoredPart.document parts)
  { method := .post, query := [uploadField id]
    headers :=
      [Sending.length body.size,
        Sending.type Sending.documentType]
    body }

/- Complete an upload; the answer is the tag of the object. -/
def completeUpload
    (c : S3Connection σ)
    (subject : Subject)
    (id : String)
    (parts : List StoredPart) : Action σ (Option String) :=
  fun s =>
    match c.sendUpload .completeUpload subject id
        (completeSending id parts) s with
    | (.error f, s) => (.error (putError subject f), s)
    | (.ok r, s) =>
        match UploadNote.completed? r.body with
        | some n => (.ok (n.tag.map ObjectInfo.bareTag), s)
        | none =>
            (.error (putError subject (ServiceCall.unreadable r)), s)

/-
  Store an object in parts, and give the upload up when anything
  fails after it was opened.
-/
def putInParts
    (c : S3Connection σ)
    (size : Nat)
    (subject : Subject)
    (first : Bytes)
    (source : PartSource)
    (expected : Option Nat)
    (contentType : Option String) :
    Action σ (Nat × Option String) :=
  fun s =>
    match c.openUpload subject contentType s with
    | (.error e, s) => (.error e, s)
    | (.ok id, s) =>
        match c.uploadParts size subject id first source expected s
        with
        | (.error e, s) => (.error e, c.abortUpload subject id s)
        | (.ok (parts, total), s) =>
            match c.completeUpload subject id parts s with
            | (.error e, s) => (.error e, c.abortUpload subject id s)
            | (.ok tag, s) => (.ok (total, tag), s)

/-
  Store a body in parts of a size; a body shorter than one part
  goes in one request.
-/
def putSized
    (c : S3Connection σ)
    (size : Nat)
    (subject : Subject)
    (body : Body)
    (expected : Option Nat)
    (contentType : Option String) :
    Action σ (Nat × Option String) :=
  fun s =>
    match (PartSource.ofBody body).next size with
    | (.error e, _) => (.error e, s)
    | (.ok first, source) =>
        let first := first.getD Bytes.empty
        if first.size < size then
          match subject.checkLength expected first.size with
          | .error e => (.error e, s)
          | .ok _ =>
              match c.putWhole subject first contentType s with
              | (.error e, s) => (.error e, s)
              | (.ok tag, s) => (.ok (first.size, tag), s)
        else
          c.putInParts size subject first source expected contentType
            s

/- Store an object; the answer tells what is known about it. -/
def put
    (c : S3Connection σ)
    (bucket key : String)
    (body : Body)
    (expected : Option Nat)
    (contentType : Option String) : Action σ ObjectInfo :=
  fun s =>
    match c.putSized partSize ⟨bucket, some key⟩ body expected
        contentType s with
    | (.error e, s) => (.error e, s)
    | (.ok (length, tag), s) =>
        (.ok
          { ObjectInfo.file key length with
            etag := tag, contentType := contentType
            modified := some (c.now s) }, s)

end S3Connection

end StorageRouting
