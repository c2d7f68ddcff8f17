import StorageRouting.Backend.Form
import StorageRouting.Console.Session
import StorageRouting.Files.ContentType
import StorageRouting.Number.Size

/-
  The commands that move contents between files and objects.

  Key definitions include:
    * `Destination`
    * `Download.save`
    * `Download.run`
    * `Upload.keyOf?`
    * `Upload.run`
-/

------------------------------------------------------------
-- Destinations
------------------------------------------------------------

namespace StorageRouting

/- Where a download goes: to the results, or to a file. -/
inductive Destination where
| results : Destination
| file (path : String) : Destination
deriving DecidableEq, Repr

namespace Destination

/- The name under which the results are asked for. -/
def resultsName : String :=
  "-"

/- The file of a key: its last part that is not empty. -/
def fileOf (key : String) : String :=
  ((FilePath.segments key).reverse.find?
    (fun part => !part.isEmpty)).getD "download"

/- The destination that is asked for. -/
def ofArguments
    (key : String)
    (path : Option String) : Destination :=
  match path with
  | none => .file (fileOf key)
  | some path => if path = resultsName then .results else .file path

end Destination

namespace Body

/- The chunks before an error, and the error. -/
def untilError : Body → List Bytes × Option Error
| [] => ([], none)
| .error e :: _ => ([], some e)
| .ok chunk :: rest =>
    let (chunks, e) := untilError rest
    (chunk :: chunks, e)

end Body

end StorageRouting

------------------------------------------------------------
-- Downloads
------------------------------------------------------------

namespace StorageRouting

/- Why a content could not be put at its destination. -/
structure SavingFailure where
  text : String
  code : ExitCode

/- What was downloaded, and to which file. -/
structure Download where
  place : Place
  key : String
  path : String
  size : Nat
deriving DecidableEq, Repr

namespace Download

variable {σ : Type}

/- The size in words. -/
def human (d : Download) : String :=
  Size.text d.size

/- The written form of a download. -/
def toValue (d : Download) : Value :=
  .object
    (d.place.fields ++
      [("key", .string d.key), ("path", .string d.path),
        ("size_bytes", .nat d.size),
        ("size_human", .string d.human)])

/- A download in a line. -/
def screen
    (f : Formatter)
    (d : Download) : Screen :=
  f.success
    ("Downloaded " ++ d.place.object d.key ++ " -> " ++
      f.paint .object d.path ++ " (" ++ f.paint .size d.human ++ ")")

/- A failure of the file system. -/
def fileFailure
    (verb path : String)
    (e : FileError) : SavingFailure :=
  { text := "Failed to " ++ verb ++ " " ++ path ++ ": " ++ e.text
    code := .generalError }

/- Put a content in a file, in a directory that may be missing. -/
def saveFile
    (path : String)
    (content : Bytes) : Job σ (Except SavingFailure Unit) := do
  let parent := (FilePath.parent? path).getD ""
  match ← Job.change (fun files => files.createDirectories parent) with
  | .error e => return .error (fileFailure "create" parent e)
  | .ok _ =>
      match ← Job.change (fun files => files.write path content) with
      | .error e => return .error (fileFailure "create" path e)
      | .ok _ => return .ok ()

/-
  Put a body at its destination as far as it arrives.  The
  answer is its size.
-/
def save
    (body : Body) :
    Destination → Job σ (Except SavingFailure Nat)
| .results => do
    let (chunks, failure) := body.untilError
    Job.print (chunks.map .raw)
    match failure with
    | some e => return .error ⟨e.message, .ofError e⟩
    | none => return .ok (chunks.foldl (fun n c => n + c.size) 0)
| .file path => do
    let (chunks, failure) := body.untilError
    let content := chunks.foldl (· ++ ·) Bytes.empty
    match ← saveFile path content, failure with
    | .error failure, _ => return .error failure
    | .ok _, some e =>
        return .error
          ⟨"Failed to write " ++ path ++ ": " ++ e.message, .ofError e⟩
    | .ok _, none => return .ok content.size

/- What is said of a download that failed. -/
def failed (key : String) : String :=
  "Failed to download '" ++ key ++ "'"

/- Find the content of an object. -/
def find
    (r : StorageClient.Route σ)
    (key : String)
    (bucket : Option String) : Action σ (Place × Body) := do
  let place ← Action.pure? (Session.placeOf r bucket)
  let body ←
    StorageClient.standard.openObject r (some place.bucket) key
  return (place, body)

/- Download an object. -/
def run
    (session : Session σ)
    (f : Formatter)
    (key : String)
    (path bucket : Option String) : Job σ ExitCode := do
  let r ←
    session.direct "get"
      [("key", .string key), ("bucket", .ofString? bucket)]
  match ← Job.ask (find r key bucket) with
  | .error e => Job.report f (failed key) e
  | .ok (place, body) =>
      let destination := Destination.ofArguments key path
      match ← save body destination, destination with
      | .error failure, _ =>
          Job.print (f.error (failed key ++ ": " ++ failure.text))
          return failure.code
      | .ok _, .results => return .success
      | .ok size, .file path =>
          let d : Download := { place, key, path, size }
          Job.present f d.toValue (d.screen f)

end Download

end StorageRouting

------------------------------------------------------------
-- Uploads
------------------------------------------------------------

namespace StorageRouting

/- What was uploaded. -/
structure Upload where
  place : Place
  object : ObjectInfo
deriving DecidableEq, Repr

namespace Upload

variable {σ : Type}

/- The written form of an upload. -/
def toValue (u : Upload) : Value :=
  .object (u.place.fields ++ u.object.fields)

/- An upload in a line. -/
def screen
    (f : Formatter)
    (path : String)
    (u : Upload) : Screen :=
  let size := Size.text (u.object.size.getD 0).toNat
  f.success
    ("Uploaded " ++ f.paint .object path ++ " -> " ++
      u.place.object u.object.key ++
      " (" ++ f.paint .size size ++ ")")

/- The key of a file: its name, unless a key is given. -/
def keyOf?
    (path : String)
    (key : Option String) : Option String :=
  match key with
  | some key => some key
  | none => FilePath.fileName? path

/- Store a content. -/
def store
    (r : StorageClient.Route σ)
    (key : String)
    (bucket : Option String)
    (content : Bytes)
    (contentType : Option String) : Action σ Upload := do
  let place ← Action.pure? (Session.placeOf r bucket)
  let object ←
    StorageClient.standard.upload r (some place.bucket) key content
      contentType
  return ⟨place, object⟩

/- Upload the content of a file under a key. -/
def runWith
    (session : Session σ)
    (f : Formatter)
    (path key : String)
    (bucket contentType : Option String)
    (content : Bytes) : Job σ ExitCode := do
  let r ←
    session.direct "put"
      [("key", .string key), ("bucket", .ofString? bucket)]
  let contentType := contentType.or (ContentType.guess? path)
  match ← Job.ask (store r key bucket content contentType) with
  | .error e =>
      Job.report f ("Failed to upload '" ++ key ++ "'") e
  | .ok u => Job.present f u.toValue (u.screen f path)

/- Upload a file. -/
def run
    (session : Session σ)
    (f : Formatter)
    (path : String)
    (key bucket contentType : Option String) : Job σ ExitCode := do
  match keyOf? path key with
  | none =>
      Job.print
        (f.error ("Cannot derive an object key from '" ++ path ++ "'"))
      return .usageError
  | some key =>
      match ← Job.look (fun files => files.read path) with
      | .error e =>
          Job.print
            (f.error ("Failed to read " ++ path ++ ": " ++ e.text))
          return .generalError
      | .ok content =>
          runWith session f path key bucket contentType content

end Upload

end StorageRouting
