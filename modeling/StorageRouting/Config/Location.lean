/-
  Where the configuration file stands.

  Key definitions include:
    * `ConfigLocation.Environment`
    * `ConfigLocation.path`
-/

------------------------------------------------------------
-- Location
------------------------------------------------------------

namespace StorageRouting

namespace ConfigLocation

/- The environment variables that a location depends on. -/
structure Environment where
  override : Option String
  configHome : Option String
  home : String

/- The name of the variable that gives the file itself. -/
def overrideName : String :=
  "DYNSTORE_CONFIG"

/- Put a part after a directory. -/
def joinPath
    (dir part : String) : String :=
  if part.toList.head? = some '/' ∨ dir.isEmpty then part
  else if dir.toList.getLast? = some '/' then dir ++ part
  else dir ++ "/" ++ part

/- The directory of configuration files. -/
def directory (env : Environment) : String :=
  match env.configHome with
  | some dir =>
      if dir.toList.head? = some '/' then dir
      else joinPath env.home ".config"
  | none => joinPath env.home ".config"

/-
  The configuration file: the one that is named, or the usual
  one below the directory of configuration files.
-/
def path (env : Environment) : String :=
  let usual :=
    joinPath (joinPath (directory env) "dynstore") "config.toml"
  match env.override with
  | some file => if file.isEmpty then usual else file
  | none => usual

end ConfigLocation

end StorageRouting
