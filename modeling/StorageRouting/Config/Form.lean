import StorageRouting.Config.Settings
import StorageRouting.Document.Record

/-
  Configurations and settings as dynamic values.

  Key definitions include:
    * `BackendConfig.toValue`
    * `BackendConfig.ofValue?`
    * `Settings.toValue`
    * `Settings.ofValue?`
-/

------------------------------------------------------------
-- Backend Configurations
------------------------------------------------------------

namespace StorageRouting

namespace BackendConfig

/- The fields of a configuration in declared order. -/
def fields (c : BackendConfig) : List (String × Value) :=
  [("type", .string c.kind),
    ("endpoint", .string c.endpoint),
    ("region", .string c.region),
    ("access_key", .string c.accessKey.raw),
    ("secret_key", .string c.secretKey.raw),
    ("path_style", .bool c.pathStyle)] ++
    Value.optional "default_bucket"
      (c.defaultBucket.map .string) ++
    [("auto_create_bucket", .bool c.autoCreateBucket)] ++
    Value.optional "adapter" (c.adapter.map .string) ++
    Value.optional "decryptor" (c.decryptor.map .string) ++
    Value.optional "public_key" (c.publicKey.map .string)

/- The written form of a configuration; its name is left out. -/
def toValue (c : BackendConfig) : Value :=
  .object c.fields

/- The written form of a configuration with its name. -/
def toNamedValue (c : BackendConfig) : Value :=
  .object (("name", .string c.name) :: c.fields)

/- The names of the fields in declared order. -/
def fieldNames : List String :=
  ["name", "type", "endpoint", "region", "access_key",
    "secret_key", "path_style", "default_bucket",
    "auto_create_bucket", "adapter", "decryptor", "public_key"]

/- Read a credential. -/
def credential? (v : Value) : Option Credential :=
  v.toString?.map Credential.new

/- Read a configuration. -/
def ofValue?
    (lenient : Bool)
    (v : Value) : Option BackendConfig := do
  let fs ← Record.fields? fieldNames lenient v
  let name ← fs.orElse "name" "" Value.toString?
  let kind ← fs.orElse "type" s3Kind Value.toString?
  let endpoint ← fs.orElse "endpoint" "" Value.toString?
  let region ← fs.orElse "region" defaultRegion Value.toString?
  let accessKey ←
    fs.orElse "access_key" (Credential.new "") credential?
  let secretKey ←
    fs.orElse "secret_key" (Credential.new "") credential?
  let pathStyle ← fs.orElse "path_style" true Value.toBool?
  let defaultBucket ←
    fs.optionalOrElse "default_bucket" Value.toString?
  let autoCreateBucket ←
    fs.orElse "auto_create_bucket" false Value.toBool?
  let adapter ← fs.optionalOrElse "adapter" Value.toString?
  let decryptor ← fs.optionalOrElse "decryptor" Value.toString?
  let publicKey ← fs.optionalOrElse "public_key" Value.toString?
  return {
    name, kind, endpoint, region, accessKey, secretKey, pathStyle
    defaultBucket, autoCreateBucket, adapter, decryptor
    publicKey }

end BackendConfig

end StorageRouting

------------------------------------------------------------
-- Settings
------------------------------------------------------------

namespace StorageRouting

namespace Settings

/- Settings around the written forms of the backends. -/
def fieldsWith
    (backend : BackendConfig → Value)
    (s : Settings) : List (String × Value) :=
  [("primary", .string s.primary),
    ("strict", .bool s.strict),
    ("health", .bool s.health)] ++
    Value.optional "public_key" (s.publicKey.map .string) ++
    [("backends",
      .object (s.backends.entries.map
        (fun e => (e.1, backend e.2))))]

/- The written form of settings. -/
def toValue (s : Settings) : Value :=
  .object (s.fieldsWith BackendConfig.toValue)

/- The written form of settings with the backends' names. -/
def toNamedValue (s : Settings) : Value :=
  .object (s.fieldsWith BackendConfig.toNamedValue)

/- Read the table of backends. -/
def backends?
    (lenient : Bool) :
    Value → Option (Dictionary BackendConfig)
| .object fields => do
    let entries ←
      fields.mapM (fun f => do
        let c ← BackendConfig.ofValue? lenient f.2
        return (f.1, c))
    return Dictionary.ofList entries
| _ => none

/- Read settings. -/
def ofValue?
    (lenient : Bool)
    (v : Value) : Option Settings := do
  let fs ←
    Record.fields?
      ["primary", "strict", "health", "public_key", "backends"]
      lenient v
  let primary ←
    fs.orElse "primary" BackendConfig.s3Kind Value.toString?
  let strict ← fs.orElse "strict" false Value.toBool?
  let health ← fs.orElse "health" false Value.toBool?
  let publicKey ← fs.optionalOrElse "public_key" Value.toString?
  let backends ←
    fs.orElse "backends" Dictionary.empty (backends? lenient)
  return { primary, strict, health, publicKey, backends }

end Settings

end StorageRouting
