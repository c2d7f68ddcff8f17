/-
  What the program logs, besides its results and messages.  Here
  these are the warnings of commands: of headers that a call
  cannot have, and of backends that are found down.  What is
  logged while a session opens or closes is left out, and so is
  all that is less serious than a warning.

  Key definitions include:
    * `LogLevel`
    * `LogEntry`
    * `LogOptions`
-/

------------------------------------------------------------
-- Entries
------------------------------------------------------------

namespace StorageRouting

/- How serious an entry of the log is. -/
inductive LogLevel where
| error : LogLevel
| warning : LogLevel
deriving DecidableEq, Repr

namespace LogLevel

/- A level as it is written. -/
def word : LogLevel → String
| .error => "ERROR"
| .warning => " WARN"

/- The codes of the style of a level. -/
def codes : LogLevel → List Nat
| .error => [31]
| .warning => [33]

end LogLevel

/- An entry of the log: what is told, and fields in order. -/
structure LogEntry where
  level : LogLevel
  message : String
  fields : List (String × String)
deriving DecidableEq, Repr

end StorageRouting

------------------------------------------------------------
-- Options
------------------------------------------------------------

namespace StorageRouting

/-
  How the log is written: the least serious level that is shown,
  if any is, and whether in colors.
-/
structure LogOptions where
  level : Option LogLevel
  colors : Bool
deriving DecidableEq, Repr

namespace LogOptions

/- Nothing is shown. -/
def silent : LogOptions :=
  ⟨none, false⟩

/- Whether entries of a level are shown. -/
def shows
    (o : LogOptions)
    (level : LogLevel) : Bool :=
  match o.level with
  | none => false
  | some .error => level == .error
  | some .warning => true

end LogOptions

end StorageRouting
