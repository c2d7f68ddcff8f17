import StorageRouting.Text.Blank

/-
  Names of files: their parts, parents and extensions.

  Key definitions include:
    * `FilePath.segments`
    * `FilePath.parts`
    * `FilePath.fileName?`
    * `FilePath.parent?`
    * `FilePath.extension?`
-/

------------------------------------------------------------
-- Segments
------------------------------------------------------------

namespace StorageRouting

namespace FilePath

/- The texts between the slashes of a path. -/
def segments (path : String) : List String :=
  (Text.splitAll '/' path.toList).map String.ofList

/- A segment that names no step: nothing, or a single dot. -/
def isIdle (segment : String) : Bool :=
  segment.isEmpty || segment == "."

/- Whether a path starts at the root. -/
def isAbsolute (path : String) : Bool :=
  path.toList.head? == some '/'

/- The steps of a path, from the root or from a directory. -/
def parts (path : String) : List String :=
  (segments path).filter (fun s => !isIdle s)

/- Whether a path can only name a directory. -/
def namesDirectory (path : String) : Bool :=
  match (segments path).getLast? with
  | some last => isIdle last || last == ".."
  | none => false

/- Drop the idle segments at the end, except the first one. -/
def dropIdle : List String → List String
| [] => []
| first :: rest =>
    first :: (rest.reverse.dropWhile isIdle).reverse

end FilePath

end StorageRouting

------------------------------------------------------------
-- Names and Parents
------------------------------------------------------------

namespace StorageRouting

namespace FilePath

/- The last step of a path, if it is a name. -/
def fileName? (path : String) : Option String :=
  match (dropIdle (segments path)).getLast? with
  | some last =>
      if isIdle last || last == ".." then none else some last
  | none => none

/- The path without its last step; the root has no parent. -/
def parent? (path : String) : Option String :=
  let trimmed := dropIdle (segments path)
  if trimmed = [""] then none
  else
    match dropIdle trimmed.dropLast with
    | [""] => some "/"
    | rest => some (Text.joinWith "/" rest)

/-
  The text after the last dot of a file name; a dot at its
  start does not count.
-/
def extension? (path : String) : Option String :=
  match fileName? path with
  | none => none
  | some name =>
      let back := name.toList.reverse
      match Text.splitFirst (fun c => c == '.') back with
      | none => none
      | some (ending, stem) =>
          if stem.isEmpty then none
          else some (String.ofList ending.reverse)

end FilePath

end StorageRouting
