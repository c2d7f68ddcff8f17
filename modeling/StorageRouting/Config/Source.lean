import StorageRouting.Config.Form
import StorageRouting.Document.Toml.Printer
import StorageRouting.Document.Toml.Statement
import StorageRouting.Files.Tree

/-
  Settings in configuration files.

  Key definitions include:
    * `Settings.ofText?`
    * `Settings.text`
    * `Settings.load`
    * `Settings.save`
    * `ConfigSource.load`
-/

------------------------------------------------------------
-- Text
------------------------------------------------------------

namespace StorageRouting

/- A failure of the file system as an error of an operation. -/
def Error.ofFile (e : FileError) : Error :=
  .io e.text

namespace Settings

/- Settings as they stand in the text of a file. -/
def ofText (text : String) : Except Error Settings :=
  match Toml.read? text with
  | none => .error (.tomlParse "the document is malformed")
  | some v =>
      match ofValue? true v with
      | none =>
          .error (.tomlParse "a field has the wrong type")
      | some s => .ok s

/- The text of a file that holds settings. -/
def text (s : Settings) : String :=
  Toml.render (s.fieldsWith BackendConfig.toValue)

end Settings

end StorageRouting

------------------------------------------------------------
-- Files
------------------------------------------------------------

namespace StorageRouting

namespace Settings

/-
  Load settings from a file, with every backend named by its
  key.  A file that does not exist is an error of the
  configuration.
-/
def load
    (files : FileTree)
    (path : String) : Except Error Settings := do
  if !files.exists? path then
    throw (.config ("Configuration file not found: " ++ path))
  let content ← (files.readText path).mapError Error.ofFile
  let s ← ofText content
  return s.normalize

/- Save settings in a file, whose directory may be missing. -/
def save
    (files : FileTree)
    (path : String)
    (s : Settings) : Except Error FileTree :=
  Except.mapError Error.ofFile <| do
    let files ←
      match FilePath.parent? path with
      | some parent => files.createDirectories parent
      | none => pure files
    files.write path (Bytes.ofString s.text)

end Settings

end StorageRouting

------------------------------------------------------------
-- Sources
------------------------------------------------------------

namespace StorageRouting

/- Where settings come from: they are given, or stand in a file. -/
inductive ConfigSource where
| given (s : Settings) : ConfigSource
| file (path : String) : ConfigSource

namespace ConfigSource

/- The settings of a source, with every backend named by its key. -/
def load
    (files : FileTree) : ConfigSource → Except Error Settings
| .given s => .ok s.normalize
| .file path => Settings.load files path

end ConfigSource

end StorageRouting
