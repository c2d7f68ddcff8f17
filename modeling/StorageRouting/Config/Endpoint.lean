import StorageRouting.Config.Settings
import StorageRouting.Url.Basic

/-
  The endpoint of a backend as a URL.

  Key definitions include:
    * `BackendConfig.endpointUrl`
-/

------------------------------------------------------------
-- Endpoints
------------------------------------------------------------

namespace StorageRouting

namespace BackendConfig

/- The endpoint of a backend; it must be an absolute URL. -/
def endpointUrl (c : BackendConfig) : Except Error Url :=
  (Url.parse c.endpoint).mapError (fun e =>
    .config
      ("Invalid endpoint '" ++ c.endpoint ++
        "' for backend '" ++ c.name ++ "': " ++ e.text))

end BackendConfig

end StorageRouting
