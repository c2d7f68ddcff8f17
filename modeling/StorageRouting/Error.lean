/-
  The ways in which an operation can fail, their wording, and
  the exit code that a command reports for each.

  Key definitions include:
    * `Error`
    * `Error.message`
    * `Error.exitCode`
    * `Error.isRouting`
-/

------------------------------------------------------------
-- Errors
------------------------------------------------------------

namespace StorageRouting

/- A field that a backend configuration must fill. -/
inductive RequiredField where
| accessKey : RequiredField
| secretKey : RequiredField
| endpoint : RequiredField
deriving DecidableEq, Repr

namespace RequiredField

/- The name of a required field in a configuration file. -/
def name : RequiredField → String
| .accessKey => "access_key"
| .secretKey => "secret_key"
| .endpoint => "endpoint"

end RequiredField

/-
  A failed operation: its kind, and what is known about it.
-/
inductive Error where
| configurationIncomplete
    (backend : String)
    (field : RequiredField) : Error
| unknownBackend (key : String) : Error
| backendOperationFailed (what : String) : Error
| driverRemovalRejected (why : String) : Error
| notFound (what : String) : Error
| config (what : String) : Error
| unsupportedFeature (what : String) : Error
| io (what : String) : Error
| tomlParse (what : String) : Error
| tomlSerialize (what : String) : Error
| general (what : String) : Error
deriving DecidableEq, Repr, Inhabited

namespace Error

/- The text shown for an error. -/
def message : Error → String
| .configurationIncomplete backend field =>
    "Configuration incomplete for backend '" ++ backend ++
      "': missing " ++ field.name
| .unknownBackend key => "Unknown backend: " ++ key
| .backendOperationFailed what =>
    "Backend operation failed: " ++ what
| .driverRemovalRejected why =>
    "Driver removal rejected: " ++ why
| .notFound what => "Not found: " ++ what
| .config what => "Configuration error: " ++ what
| .unsupportedFeature what => "Unsupported feature: " ++ what
| .io what => "I/O error: " ++ what
| .tomlParse what => "TOML parse error: " ++ what
| .tomlSerialize what => "TOML serialize error: " ++ what
| .general what => what

/- The exit code that a command reports for an error. -/
def exitCode : Error → Int
| .configurationIncomplete _ _ => 2
| .config _ => 2
| .tomlParse _ => 2
| .tomlSerialize _ => 2
| .backendOperationFailed _ => 3
| .notFound _ => 5
| .unknownBackend _ => 6
| .driverRemovalRejected _ => 6
| .unsupportedFeature _ => 7
| .io _ => 1
| .general _ => 1

/-
  An error of routing itself, not of the selected backend.
-/
def isRouting : Error → Bool
| .unknownBackend _ => true
| .driverRemovalRejected _ => true
| _ => false

/- A command never reports success for an error. -/
theorem exitCode_ne_zero (e : Error) : e.exitCode ≠ 0 := by
  cases e <;> simp [exitCode]

end Error

end StorageRouting
