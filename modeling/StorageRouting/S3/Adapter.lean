import StorageRouting.Registry.Converter
import StorageRouting.S3.Link
import StorageRouting.S3.Upload

/-
  Adapters to services, and the converter that builds them.

  Key definitions include:
    * `S3Connection.objectStore`
    * `S3Connection.adapter`
    * `S3Connection.connect`
    * `Converter.s3`
-/

------------------------------------------------------------
-- Operations
------------------------------------------------------------

namespace StorageRouting

namespace S3Connection

variable {σ α : Type}

/- Call with an error for something missing. -/
def ask
    (c : S3Connection σ)
    (call : ServiceCall)
    (subject : Subject)
    (missing : String)
    (m : Sending)
    (read : Response → Option α) : Action σ α :=
  fun s =>
    match c.call call subject m read s with
    | (.ok a, s) => (.ok a, s)
    | (.error f, s) => (.error (f.toError missing), s)

/- The content of a response as it arrives. -/
def bodyOf (r : Response) : Body :=
  let failure : Error :=
    .backendOperationFailed
      "Failed to read object body: streaming error"
  Body.ofBytes r.body ++ (if r.isBroken then [.error failure] else [])

/- The query that asks for a page of a listing. -/
def listFields (o : ListOptions) : List QueryField :=
  [QueryField.of "list-type" "2"] ++
    (if o.recursive then [] else [QueryField.of "delimiter" "/"]) ++
    (o.keyStart.map (QueryField.of "prefix")).toList ++
    (o.maxKeys.map
      (fun n => QueryField.of "max-keys" (toString n))).toList ++
    (o.token.map (QueryField.of "continuation-token")).toList

/- Whether a subject is there. -/
def has
    (c : S3Connection σ)
    (call : ServiceCall)
    (subject : Subject) : Action σ Bool :=
  fun s =>
    match c.send call subject (Sending.bare .head) s with
    | (.ok _, s) => (.ok true, s)
    | (.error f, s) =>
        if f.isMissing then (.ok false, s)
        else (.error (f.toError ""), s)

/- Add a bucket; nothing can be missing. -/
def createBucket
    (c : S3Connection σ)
    (bucket : String) : Action σ Unit :=
  fun s =>
    match c.send .createBucket ⟨bucket, none⟩
        (Sending.emptyDocument [] []) s with
    | (.ok _, s) => (.ok (), s)
    | (.error f, s) => (.error (.backendOperationFailed f.message), s)

/- The request that sets an access list. -/
def aclSending (acl : CannedAcl) : Sending :=
  Sending.emptyDocument [QueryField.flag "acl"]
    [("x-amz-acl", acl.name)]

/- Set the access list of a bucket or an object. -/
def setAcl
    (c : S3Connection σ)
    (bucket : String)
    (key : Option String)
    (acl : CannedAcl) : Action σ Unit :=
  let subject : Subject := ⟨bucket, key⟩
  if key.isSome then
    c.ask .setObjectAcl subject subject.missingObject
      (aclSending acl) (fun _ => some ())
  else
    c.ask .setBucketAcl subject subject.missingBucket
      (aclSending acl) (fun _ => some ())

/- The access list of a bucket or an object. -/
def getAcl
    (c : S3Connection σ)
    (bucket : String)
    (key : Option String) : Action σ AccessPolicy :=
  let subject : Subject := ⟨bucket, key⟩
  let m :=
    { Sending.bare .get with query := [QueryField.flag "acl"] }
  let read := fun (r : Response) => AccessPolicy.ofDocument? r.body
  if key.isSome then
    c.ask .getObjectAcl subject subject.missingObject m read
  else c.ask .getBucketAcl subject subject.missingBucket m read

end S3Connection

end StorageRouting

------------------------------------------------------------
-- Adapters
------------------------------------------------------------

namespace StorageRouting

namespace S3Connection

variable {σ : Type}

/- The operations over a connection. -/
def objectStore (c : S3Connection σ) : ObjectStore σ where
  put bucket key body size contentType :=
    c.whenOpen (c.put bucket key body size contentType)
  get bucket key :=
    let subject : Subject := ⟨bucket, some key⟩
    c.whenOpen
      (c.ask .getObject subject subject.missingObject
        (Sending.named .get "GetObject") (fun r => some (bodyOf r)))
  delete bucket key :=
    let subject : Subject := ⟨bucket, some key⟩
    c.whenOpen
      (c.ask .deleteObject subject subject.missingObject
        (Sending.named .delete "DeleteObject") (fun _ => some ()))
  list bucket options :=
    let subject : Subject := ⟨bucket, none⟩
    c.whenOpen
      (c.ask .listObjects subject subject.missingBucket
        { Sending.bare .get with query := listFields options }
        (fun r => ListPage.ofDocument? r.body))
  hasObject bucket key :=
    c.whenOpen (c.has .headObject ⟨bucket, some key⟩)
  hasBucket bucket :=
    c.whenOpen (c.has .headBucket ⟨bucket, none⟩)
  createBucket bucket := c.whenOpen (c.createBucket bucket)
  deleteBucket bucket :=
    let subject : Subject := ⟨bucket, none⟩
    c.whenOpen
      (c.ask .deleteBucket subject subject.missingBucket
        (Sending.bare .delete) (fun _ => some ()))
  setAcl bucket key acl := c.whenOpen (c.setAcl bucket key acl)
  getAcl bucket key := c.whenOpen (c.getAcl bucket key)
  link bucket key method ttl :=
    c.whenOpen
      (fun s => (c.link bucket key method ttl (c.now s), s))

/- The adapter over a connection. -/
def adapter (c : S3Connection σ) : Adapter σ where
  toObjectStore := c.objectStore
  config := c.config
  close := fun s => (.ok (), c.closed.set true s)
  probe := c.objectStore.usualProbe c.config

/- Create the default bucket when that is asked for. -/
def ensureDefaultBucket (c : S3Connection σ) : Action σ Unit :=
  fun s =>
    match c.config.autoCreateBucket, c.config.defaultBucket with
    | true, some bucket =>
        match c.objectStore.hasBucket bucket s with
        | (.error e, s) => (.error e, s)
        | (.ok true, s) => (.ok (), s)
        | (.ok false, s) => c.objectStore.createBucket bucket s
    | _, _ => (.ok (), s)

/- The form shown in diagnostics. -/
def diagnostic
    (c : S3Connection σ)
    (s : σ) : String :=
  "S3Adapter \x7b config: " ++ c.config.diagnostic ++
    ", closed: " ++ Text.boolWord (c.closed.get s) ++ ", .. \x7d"

end S3Connection

end StorageRouting

------------------------------------------------------------
-- Connecting
------------------------------------------------------------

namespace StorageRouting

/-
  What connecting needs of a state: a new place to note that a
  connection was closed, the way to services, and the clock.
-/
structure Surroundings (σ : Type) where
  newFlag : StateM σ (Slot σ Bool)
  wire : Wire σ
  now : σ → Moment

namespace S3Connection

variable {σ : Type}

/- Check a configuration before anything is done with it. -/
def check (config : BackendConfig) : Except Error Unit :=
  match config.preCheck with
  | .error e => .error e
  | .ok _ => config.endpointUrl.map (fun _ => ())

/-
  Connect to the service of a backend: check the configuration,
  reveal the credentials, and see to the default bucket.
-/
def connect
    (around : Surroundings σ)
    (credentials : CredentialResolver σ)
    (config : BackendConfig) : Action σ (S3Connection σ) :=
  fun s =>
    match check config with
    | .error e => (.error e, s)
    | .ok _ =>
        let (accessKey, s) := credentials.accessKey config s
        let (secretKey, s) := credentials.secretKey config s
        let (closed, s) := around.newFlag s
        let c : S3Connection σ :=
          { config, accessKey, secretKey, closed
            wire := around.wire, now := around.now }
        match c.ensureDefaultBucket s with
        | (.error e, s) => (.error e, s)
        | (.ok _, s) => (.ok c, s)

end S3Connection

/- Builds the backends that are of the kind for services. -/
def Converter.s3
    {σ : Type}
    (around : Surroundings σ) : Converter (Adapter σ) σ where
  name := BackendConfig.s3Kind
  convert config credentials :=
    if config.kind = BackendConfig.s3Kind then
      fun s =>
        match S3Connection.connect around credentials config s with
        | (.ok c, s) => (.ok (some c.adapter), s)
        | (.error e, s) => (.error e, s)
    else Action.pure? (.ok none)

end StorageRouting
