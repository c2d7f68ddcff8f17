import StorageRouting.Error

/-
  The exit codes of commands.

  Key definitions include:
    * `ExitCode`
    * `ExitCode.number`
    * `ExitCode.ofNumber?`
    * `ExitCode.ofError`
-/

------------------------------------------------------------
-- Exit Codes
------------------------------------------------------------

namespace StorageRouting

/- How a command ended. -/
inductive ExitCode where
| success : ExitCode
| generalError : ExitCode
| usageError : ExitCode
| networkError : ExitCode
| notFound : ExitCode
| routingError : ExitCode
| unsupportedFeature : ExitCode
deriving DecidableEq, Repr, Inhabited

namespace ExitCode

/- The number of an exit code. -/
def number : ExitCode → Int
| .success => 0
| .generalError => 1
| .usageError => 2
| .networkError => 3
| .notFound => 5
| .routingError => 6
| .unsupportedFeature => 7

/- All exit codes. -/
def all : List ExitCode :=
  [.success, .generalError, .usageError, .networkError,
    .notFound, .routingError, .unsupportedFeature]

/- The exit code of a number. -/
def ofNumber? (n : Int) : Option ExitCode :=
  all.find? (fun c => c.number == n)

/- The exit code that stands for an error. -/
def ofError (e : Error) : ExitCode :=
  (ofNumber? e.exitCode).getD .generalError

/- The name of an exit code. -/
def name : ExitCode → String
| .success => "Success"
| .generalError => "GeneralError"
| .usageError => "UsageError"
| .networkError => "NetworkError"
| .notFound => "NotFound"
| .routingError => "RoutingError"
| .unsupportedFeature => "UnsupportedFeature"

end ExitCode

end StorageRouting
