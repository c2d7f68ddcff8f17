import StorageRouting.Url.Host

/-
  URLs: their parts, and reading them from text.

  Key definitions include:
    * `Url`
    * `Url.text`
    * `Url.knownPort?`
    * `Url.parse`
-/

------------------------------------------------------------
-- The Type
------------------------------------------------------------

namespace StorageRouting

/-
  A URL in parts.  `authority` tells whether there is a place
  for a host, which can be empty.
-/
structure Url where
  scheme : String
  authority : Bool
  user : String
  host : Option String
  port : Option Nat
  path : String
  query : Option String
  fragment : Option String
deriving DecidableEq, Repr

namespace Url

/- The port that a scheme has when none is given. -/
def defaultPort? (scheme : String) : Option Nat :=
  if scheme = "http" ∨ scheme = "ws" then some 80
  else if scheme = "https" ∨ scheme = "wss" then some 443
  else if scheme = "ftp" then some 21
  else none

/- The port of a URL, given or known from its scheme. -/
def knownPort? (u : Url) : Option Nat :=
  u.port.or (defaultPort? u.scheme)

/- Files have a path, but no user and no port. -/
def isFile (scheme : String) : Bool :=
  scheme == "file"

/- Schemes that give hosts and paths a meaning. -/
def isSpecial (scheme : String) : Bool :=
  isFile scheme || (defaultPort? scheme).isSome

/- A URL as text. -/
def text (u : Url) : String :=
  let place :=
    if u.authority then
      "//" ++ u.user ++ u.host.getD "" ++
        (match u.port with
        | some port => ":" ++ toString port
        | none => "")
    else if Text.startsWith "//" u.path then "/."
    else ""
  let query :=
    match u.query with
    | some q => "?" ++ q
    | none => ""
  let fragment :=
    match u.fragment with
    | some f => "#" ++ f
    | none => ""
  u.scheme ++ ":" ++ place ++ u.path ++ query ++ fragment

end Url

end StorageRouting

------------------------------------------------------------
-- Schemes, Users and Ports
------------------------------------------------------------

namespace StorageRouting

namespace Url

/-
  The characters of a text that count: blanks and controls at
  its ends are dropped, tabs and line ends everywhere.
-/
def significant (s : String) : List Char :=
  let isEdge := fun (c : Char) => decide (c.toNat ≤ 32)
  let cs := s.toList.dropWhile isEdge
  let cs := (cs.reverse.dropWhile isEdge).reverse
  cs.filter (fun c => ! ['\t', '\n', '\r'].contains c)

/- A character of a scheme after its first letter. -/
def isSchemeChar (c : Char) : Bool :=
  c.isAlphanum || c == '+' || c == '-' || c == '.'

/- The scheme at the start of a text, in lower case. -/
def takeScheme?
    (cs : List Char) : Option (String × List Char) :=
  match cs with
  | [] => none
  | c :: _ =>
      if !c.isAlpha then none
      else
        match cs.dropWhile isSchemeChar with
        | ':' :: rest =>
            let scheme := cs.takeWhile isSchemeChar
            some (Text.lowerAscii (String.ofList scheme), rest)
        | _ => none

/- A character that ends the part of a URL before its path. -/
def endsPlace
    (special : Bool)
    (c : Char) : Bool :=
  c == '/' || c == '?' || c == '#' || (special && c == '\\')

/- The user name and password, up to an at sign that follows. -/
def userText (cs : List Char) : String :=
  let (name, password) :=
    match Text.splitFirst (fun c => c == ':') cs with
    | none => (cs, [])
    | some (name, password) => (name, password)
  let encoded :=
    percentEncode userSet name ++
      (if password.isEmpty then []
      else ':' :: percentEncode userSet password)
  if encoded.isEmpty then ""
  else String.ofList (encoded ++ ['@'])

/-
  Take the user off the place of a URL: all before its last at
  sign.  The last component tells whether nothing follows one
  that has nothing before it.
-/
def takeUser
    (place : List Char) : String × List Char × Bool :=
  if place.contains '@' then
    let back := place.reverse
    let host := (back.takeWhile (fun c => c != '@')).reverse
    let user :=
      ((back.dropWhile (fun c => c != '@')).drop 1).reverse
    (userText user, host, user.isEmpty && host.isEmpty)
  else ("", place, false)

/- Cut a place into a host and what follows it. -/
def cutHost :
    Bool → List Char → List Char → List Char × List Char
| _, acc, [] => (acc.reverse, [])
| inside, acc, c :: cs =>
    if c = ':' ∧ !inside then (acc.reverse, c :: cs)
    else if c = '[' then cutHost true (c :: acc) cs
    else if c = ']' then cutHost false (c :: acc) cs
    else cutHost inside (c :: acc) cs

/- The port after a colon; the default port counts as none. -/
def readPort
    (scheme : String)
    (cs : List Char) : Except UrlError (Option Nat) :=
  if cs.isEmpty then .ok none
  else if !cs.all Char.isDigit then .error .port
  else if Decimal.value cs > 65535 then .error .port
  else if defaultPort? scheme = some (Decimal.value cs) then
    .ok none
  else .ok (some (Decimal.value cs))

end Url

end StorageRouting

------------------------------------------------------------
-- Paths
------------------------------------------------------------

namespace StorageRouting

namespace Url

/- A segment that stands for the directory it is in. -/
def isHere (segment : String) : Bool :=
  [".", "%2e"].contains (Text.lowerAscii segment)

/- A segment that stands for the parent directory. -/
def isParent (segment : String) : Bool :=
  ["..", ".%2e", "%2e.", "%2e%2e"].contains
    (Text.lowerAscii segment)

/- The texts between the separators of a path. -/
def rawSegments
    (special : Bool) : List Char → List (List Char)
| [] => [[]]
| c :: cs =>
    if c = '/' ∨ (special ∧ c = '\\') then
      [] :: rawSegments special cs
    else
      match rawSegments special cs with
      | [] => [[c]]
      | first :: rest => (c :: first) :: rest

/-
  Follow the segments of a path, with those that stand for
  directories resolved; `done` holds the result in reverse.
-/
def resolveSegments
    (done : List String) : List String → List String
| [] => done.reverse
| s :: rest =>
    let last := rest.isEmpty
    if isParent s then
      let done := done.drop 1
      resolveSegments (if last then "" :: done else done) rest
    else if isHere s then
      resolveSegments (if last then "" :: done else done) rest
    else resolveSegments (s :: done) rest

/- The path below a separator. -/
def pathBelow
    (special : Bool)
    (cs : List Char) : String :=
  let segments :=
    (rawSegments special cs).map
      (fun s => String.ofList (percentEncode pathSet s))
  "/" ++ Text.joinWith "/" (resolveSegments [] segments)

/- A path after the place of a URL. -/
def pathAfter
    (special : Bool)
    (cs : List Char) : String :=
  match cs with
  | [] => if special then "/" else ""
  | c :: rest =>
      if c = '/' ∨ (special ∧ c = '\\') then
        pathBelow special rest
      else pathBelow special cs

/- The path of a file, without separators at its start. -/
def filePath (cs : List Char) : String :=
  let path := (pathAfter true cs).toList
  "/" ++ String.ofList (path.dropWhile (fun c => c == '/'))

/- Cut off the query and the fragment, encoded. -/
def cutTail
    (special : Bool)
    (cs : List Char) :
    List Char × Option String × Option String :=
  let (front, fragment) :=
    match Text.splitFirst (fun c => c == '#') cs with
    | none => (cs, none)
    | some (front, f) =>
        (front,
          some (String.ofList (percentEncode fragmentSet f)))
  match Text.splitFirst (fun c => c == '?') front with
  | none => (front, none, fragment)
  | some (path, q) =>
      (path,
        some (String.ofList (percentEncode (querySet special) q)),
        fragment)

end Url

end StorageRouting

------------------------------------------------------------
-- Reading
------------------------------------------------------------

namespace StorageRouting

namespace Url

/- What follows two separators. -/
def readPlaced
    (scheme : String)
    (cs : List Char) : Except UrlError Url := do
  let special := isSpecial scheme
  let place := cs.takeWhile (fun c => !endsPlace special c)
  let rest := cs.dropWhile (fun c => !endsPlace special c)
  let (user, place, bare) := takeUser place
  if bare ∧ !rest.isEmpty then throw .emptyHost
  let (name, after) := cutHost false [] place
  if special ∧ name.isEmpty then throw .emptyHost
  let host ← if special then Host.special name else Host.plain name
  if host.isEmpty ∧ !after.isEmpty then throw .emptyHost
  let port ← readPort scheme (after.drop 1)
  if host.isEmpty ∧ !user.isEmpty then throw .emptyHost
  let (path, query, fragment) := cutTail special rest
  return {
    scheme, authority := true, user
    host := if host.isEmpty then none else some host
    port, path := pathAfter special path, query, fragment }

/- A URL of a file after its scheme. -/
def readFile (cs : List Char) : Except UrlError Url := do
  let isSlash := fun (c : Char) => c == '/' || c == '\\'
  let build := fun (host : Option String) (rest : List Char) =>
    let (path, query, fragment) := cutTail true rest
    ({ scheme := "file", authority := true, user := "", host
       port := none, path := filePath path, query, fragment } :
      Url)
  match cs with
  | a :: b :: rest =>
      if isSlash a ∧ isSlash b then
        let name := rest.takeWhile (fun c => !endsPlace true c)
        let after := rest.dropWhile (fun c => !endsPlace true c)
        if name.isEmpty then return build none after
        else
          let host ← Host.special name
          let host :=
            if host = "localhost" then none else some host
          return build host after
      else return build none cs
  | _ => return build none cs

/- A URL without a place for a host, after its scheme. -/
def readUnplaced
    (scheme : String)
    (cs : List Char) : Url :=
  let (path, query, fragment) := cutTail false cs
  let path :=
    match path with
    | '/' :: rest => pathBelow false rest
    | _ => String.ofList (percentEncode controlSet path)
  { scheme, authority := false, user := "", host := none
    port := none, path, query, fragment }

/- The URL that a text denotes. -/
def parse (s : String) : Except UrlError Url :=
  match takeScheme? (significant s) with
  | none => .error .noBase
  | some (scheme, rest) =>
      if isFile scheme then readFile rest
      else if isSpecial scheme then
        readPlaced scheme
          (rest.dropWhile (fun c => c == '/' || c == '\\'))
      else
        match rest with
        | '/' :: '/' :: rest => readPlaced scheme rest
        | rest => .ok (readUnplaced scheme rest)

end Url

end StorageRouting
