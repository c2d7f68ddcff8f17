import StorageRouting.Bytes.Basic
import StorageRouting.Dictionary
import StorageRouting.Files.Path

/-
  A tree of files and directories with a working directory.

  Key definitions include:
    * `FileError`
    * `FileTree`
    * `FileTree.locate`
    * `FileTree.read`
    * `FileTree.write`
    * `FileTree.createDirectories`
-/

------------------------------------------------------------
-- Errors
------------------------------------------------------------

namespace StorageRouting

/- Why a file cannot be reached. -/
inductive FileError where
| missing : FileError
| notDirectory : FileError
| isDirectory : FileError
| exists : FileError
| nameTooLong : FileError
| zeroCharacter : FileError
| notText : FileError
deriving DecidableEq, Repr

namespace FileError

/- The text of a failure. -/
def text : FileError → String
| .missing => "No such file or directory (os error 2)"
| .notDirectory => "Not a directory (os error 20)"
| .isDirectory => "Is a directory (os error 21)"
| .exists => "File exists (os error 17)"
| .nameTooLong => "File name too long (os error 36)"
| .zeroCharacter =>
    "file name contained an unexpected NUL byte"
| .notText => "stream did not contain valid UTF-8"

end FileError

end StorageRouting

------------------------------------------------------------
-- Trees
------------------------------------------------------------

namespace StorageRouting

/- What stands under a name: a file or a directory. -/
inductive FileNode where
| file (content : Bytes) : FileNode
| directory : FileNode

/-
  Files and directories by their full names, and the steps to
  the working directory.  The root itself has no entry.
-/
structure FileTree where
  nodes : Dictionary FileNode
  working : List String

namespace FileTree

/- A tree with nothing but its root. -/
def empty : FileTree :=
  ⟨Dictionary.empty, []⟩

instance : Inhabited FileTree :=
  ⟨empty⟩

/- The full name of the place that some steps lead to. -/
def fullName (steps : List String) : String :=
  String.join (steps.map (fun s => "/" ++ s))

/- What stands at a place. -/
def node?
    (t : FileTree)
    (steps : List String) : Option FileNode :=
  if steps.isEmpty then some .directory
  else t.nodes.get? (fullName steps)

/- Put a file or directory at a place. -/
def put
    (t : FileTree)
    (steps : List String)
    (n : FileNode) : FileTree :=
  { t with nodes := t.nodes.insert (fullName steps) n }

/- The longest name of a single step, in bytes. -/
def nameLimit : Nat :=
  255

/- The longest path, in bytes. -/
def pathLimit : Nat :=
  4095

/-
  Follow steps from a place.  All but the last must lead to
  something, and all that are passed must be directories.
-/
def walk
    (t : FileTree) :
    List String → List String → Except FileError (List String)
| here, [] => .ok here
| here, step :: rest =>
    match t.node? here with
    | some .directory =>
        if step = ".." then walk t here.dropLast rest
        else if nameLimit < step.utf8ByteSize then
          .error .nameTooLong
        else walk t (here ++ [step]) rest
    | some (.file _) => .error .notDirectory
    | none => .error .missing

/- The place that a path leads to; it need not exist. -/
def locate
    (t : FileTree)
    (path : String) : Except FileError (List String) := do
  if path.isEmpty then throw .missing
  if path.toList.contains (Char.ofNat 0) then
    throw .zeroCharacter
  if pathLimit < path.utf8ByteSize then throw .nameTooLong
  let start := if FilePath.isAbsolute path then [] else t.working
  let place ← walk t start (FilePath.parts path)
  match t.node? place with
  | some (.file _) =>
      if FilePath.namesDirectory path then throw .notDirectory
      else return place
  | some .directory => return place
  | none => do
      match t.node? place.dropLast with
      | some .directory => return place
      | some (.file _) => throw .notDirectory
      | none => throw .missing

/- What stands under a path. -/
def find
    (t : FileTree)
    (path : String) : Except FileError FileNode := do
  let place ← t.locate path
  match t.node? place with
  | some n => return n
  | none => throw .missing

/- Whether something stands under a path. -/
def exists?
    (t : FileTree)
    (path : String) : Bool :=
  match t.find path with
  | .ok _ => true
  | .error _ => false

end FileTree

end StorageRouting

------------------------------------------------------------
-- Reading and Writing
------------------------------------------------------------

namespace StorageRouting

namespace FileTree

/- The content of a file. -/
def read
    (t : FileTree)
    (path : String) : Except FileError Bytes := do
  match ← t.find path with
  | .file content => return content
  | .directory => throw .isDirectory

/- The content of a file that holds text. -/
def readText
    (t : FileTree)
    (path : String) : Except FileError String := do
  let content ← t.read path
  match content.toString? with
  | some s => return s
  | none => throw .notText

/- Put content in a file, which need not exist. -/
def write
    (t : FileTree)
    (path : String)
    (content : Bytes) : Except FileError FileTree := do
  let place ← t.locate path
  match t.node? place with
  | some .directory => throw .isDirectory
  | some (.file _) => return t.put place (.file content)
  | none =>
      if FilePath.namesDirectory path then throw .isDirectory
      else return t.put place (.file content)

/- Create a single directory. -/
def createDirectory
    (t : FileTree)
    (path : String) : Except FileError FileTree := do
  let place ← t.locate path
  match t.node? place with
  | some _ => throw .exists
  | none => return t.put place .directory

/- Whether a path leads to a directory. -/
def isDirectory
    (t : FileTree)
    (path : String) : Bool :=
  match t.find path with
  | .ok .directory => true
  | _ => false

/-
  Create a directory with the parents that are missing, of at
  most a given number.
-/
def createWithParents :
    Nat → FileTree → String → Except FileError FileTree
| 0, _, _ => .error .missing
| fuel + 1, t, path =>
    match t.createDirectory path with
    | .ok t => .ok t
    | .error .missing =>
        match FilePath.parent? path with
        | none => .error .missing
        | some parent => do
            let t ←
              if parent.isEmpty then pure t
              else createWithParents fuel t parent
            match t.createDirectory path with
            | .ok t => return t
            | .error e =>
                if t.isDirectory path then return t else throw e
    | .error e =>
        if t.isDirectory path then .ok t else .error e

/- Create a directory with the parents that are missing. -/
def createDirectories
    (t : FileTree)
    (path : String) : Except FileError FileTree :=
  if path.isEmpty then .ok t
  else createWithParents (path.length + 1) t path

end FileTree

end StorageRouting
