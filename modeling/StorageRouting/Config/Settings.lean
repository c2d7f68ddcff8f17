import StorageRouting.Credential.Basic
import StorageRouting.Dictionary
import StorageRouting.Error
import StorageRouting.Text.Quoted

/-
  Configurations of backends and the settings of routing.

  Key definitions include:
    * `BackendConfig`
    * `BackendConfig.preCheck`
    * `Settings`
    * `Settings.normalize`
    * `Settings.addBackend`
-/

------------------------------------------------------------
-- Backend Configurations
------------------------------------------------------------

namespace StorageRouting

/- The configuration of one named backend. -/
structure BackendConfig where
  name : String
  kind : String
  endpoint : String
  region : String
  accessKey : Credential
  secretKey : Credential
  pathStyle : Bool
  defaultBucket : Option String
  autoCreateBucket : Bool
  adapter : Option String
  decryptor : Option String
  publicKey : Option String
deriving DecidableEq, Repr

namespace BackendConfig

/- The kind of the backends that speak S3. -/
def s3Kind : String :=
  "s3"

/- The kind of the backends that live in memory. -/
def memoryKind : String :=
  "memory"

/- The region of a backend that names none. -/
def defaultRegion : String :=
  "us-east-1"

/- A configuration in which nothing is filled in. -/
def blank : BackendConfig :=
  { name := "", kind := s3Kind, endpoint := ""
    region := defaultRegion, accessKey := Credential.new ""
    secretKey := Credential.new "", pathStyle := true
    defaultBucket := none, autoCreateBucket := false
    adapter := none, decryptor := none, publicKey := none }

instance : Inhabited BackendConfig :=
  ⟨blank⟩

/- A configuration with the four values that each needs. -/
def new
    (name endpoint accessKey secretKey : String) :
    BackendConfig :=
  { blank with
    name, endpoint
    accessKey := Credential.new accessKey
    secretKey := Credential.new secretKey }

/- A configuration without the cells of its credentials. -/
def detached (c : BackendConfig) : BackendConfig :=
  { c with
    accessKey := c.accessKey.detached
    secretKey := c.secretKey.detached }

/- Configurations are the same but for what was revealed. -/
def same (a b : BackendConfig) : Bool :=
  a.detached == b.detached

/- The first required field that is not filled in. -/
def missingField? (c : BackendConfig) : Option RequiredField :=
  if c.accessKey.isEmpty then some .accessKey
  else if c.secretKey.isEmpty then some .secretKey
  else if Text.isBlankText c.endpoint then some .endpoint
  else none

/- Refuse a configuration with a required field missing. -/
def preCheck (c : BackendConfig) : Except Error Unit :=
  match c.missingField? with
  | some field => .error (.configurationIncomplete c.name field)
  | none => .ok ()

/- The form shown in diagnostics. -/
def diagnostic (c : BackendConfig) : String :=
  "BackendConfig \x7b name: " ++ Text.quoted c.name ++
    ", backend_type: " ++ Text.quoted c.kind ++
    ", endpoint: " ++ Text.quoted c.endpoint ++
    ", region: " ++ Text.quoted c.region ++
    ", access_key: " ++ c.accessKey.diagnostic ++
    ", secret_key: " ++ c.secretKey.diagnostic ++
    ", path_style: " ++ Text.boolWord c.pathStyle ++
    ", default_bucket: " ++ Text.quotedOption c.defaultBucket ++
    ", auto_create_bucket: " ++
      Text.boolWord c.autoCreateBucket ++
    ", adapter: " ++ Text.quotedOption c.adapter ++
    ", decryptor: " ++ Text.quotedOption c.decryptor ++
    ", public_key: " ++ Text.quotedOption c.publicKey ++
    " \x7d"

end BackendConfig

end StorageRouting

------------------------------------------------------------
-- Settings
------------------------------------------------------------

namespace StorageRouting

/- The settings of a set of backends. -/
structure Settings where
  primary : String
  strict : Bool
  health : Bool
  publicKey : Option String
  backends : Dictionary BackendConfig
deriving DecidableEq

namespace Settings

/- Settings in which nothing is filled in. -/
def blank : Settings :=
  { primary := BackendConfig.s3Kind, strict := false
    health := false, publicKey := none
    backends := Dictionary.empty }

instance : Inhabited Settings :=
  ⟨blank⟩

/- Every backend is named by the key under which it stands. -/
def normalize (s : Settings) : Settings :=
  { s with
    backends :=
      s.backends.mapEntries (fun name c => { c with name }) }

/- Put a backend under its name. -/
def addBackend
    (s : Settings)
    (c : BackendConfig) : Settings :=
  { s with backends := s.backends.insert c.name c }

/- Settings without the cells of credentials. -/
def detached (s : Settings) : Settings :=
  { s with
    backends := s.backends.mapEntries (fun _ c => c.detached) }

/- Settings are the same but for what was revealed. -/
def same (a b : Settings) : Bool :=
  a.detached == b.detached

end Settings

end StorageRouting
