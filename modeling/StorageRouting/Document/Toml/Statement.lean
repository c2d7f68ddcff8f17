import StorageRouting.Document.Toml.Literal
import StorageRouting.Document.Toml.Quoted
import StorageRouting.Document.Toml.Table

/-
  Reading TOML documents, statement by statement.

  Key definitions include:
    * `Toml.Statement`
    * `Toml.readValue?`
    * `Toml.statements?`
    * `Toml.read?`
-/

------------------------------------------------------------
-- Keys
------------------------------------------------------------

namespace StorageRouting

namespace Toml

/- A key at the start of a text: bare, or in quotes. -/
def readKey?
    (cs : List Char) : Option (String × List Char) :=
  match cs with
  | '"' :: '"' :: '"' :: _ => none
  | '\'' :: '\'' :: '\'' :: _ => none
  | '"' :: _ => readShort? cs
  | '\'' :: _ => readShort? cs
  | _ =>
      let key := cs.takeWhile isKeyChar
      if key.isEmpty then none
      else some (String.ofList key, cs.dropWhile isKeyChar)

/- A dotted key at the start of a text, after its parents. -/
def readKeyPath? :
    Nat → List String → List Char →
      Option (KeyPath × List Char)
| 0, _, _ => none
| fuel + 1, parents, cs => do
    let (key, rest) ← readKey? (skipSpace cs)
    match skipSpace rest with
    | '.' :: rest => readKeyPath? fuel (parents ++ [key]) rest
    | rest => some (⟨parents, key⟩, rest)

/- A dotted key at the start of a text. -/
def readPath?
    (cs : List Char) : Option (KeyPath × List Char) :=
  readKeyPath? (cs.length + 1) [] cs

end Toml

end StorageRouting

------------------------------------------------------------
-- Values
------------------------------------------------------------

namespace StorageRouting

namespace Toml

/- The elements of an array, up to its closing bracket. -/
def readItems?
    (value : List Char → Option (Value × List Char)) :
    Nat → List Value → List Char →
      Option (List Value × List Char)
| 0, _, _ => none
| fuel + 1, acc, cs => do
    let cs ← skipLines? (cs.length + 1) cs
    match cs with
    | ']' :: rest => some (acc.reverse, rest)
    | cs => do
        let (v, rest) ← value cs
        let rest ← skipLines? (rest.length + 1) rest
        match rest with
        | ',' :: rest => readItems? value fuel (v :: acc) rest
        | ']' :: rest => some ((v :: acc).reverse, rest)
        | _ => none

/-
  The fields of a table on one line, up to its closing brace.
-/
def readFields?
    (value : List Char → Option (Value × List Char)) :
    Nat → List (String × Node) → List Char →
      Option (List (String × Node) × List Char)
| 0, _, _ => none
| fuel + 1, acc, cs => do
    let cs ← skipLines? (cs.length + 1) cs
    match cs with
    | '\x7d' :: rest => some (acc, rest)
    | cs => do
        let (path, rest) ← readPath? cs
        let rest ← skipLines? (rest.length + 1) rest
        let rest ← after? '=' rest
        let rest ← skipLines? (rest.length + 1) rest
        let (v, rest) ← value rest
        let acc ← assign? path v .header acc
        let rest ← skipLines? (rest.length + 1) rest
        match rest with
        | ',' :: rest => readFields? value fuel acc rest
        | '\x7d' :: rest => some (acc, rest)
        | _ => none

/- A value at the start of a text, with a bound on its depth. -/
def readValue? :
    Nat → List Char → Option (Value × List Char)
| _, '"' :: rest => do
    let (s, rest) ← readString? ('"' :: rest)
    return (.string s, rest)
| _, '\'' :: rest => do
    let (s, rest) ← readString? ('\'' :: rest)
    return (.string s, rest)
| depth + 1, '[' :: rest => do
    let (items, rest) ←
      readItems? (readValue? depth) (rest.length + 1) [] rest
    return (.array items, rest)
| depth + 1, '\x7b' :: rest => do
    let (fields, rest) ←
      readFields? (readValue? depth) (rest.length + 1) [] rest
    return (.object (fieldValues fields), rest)
| _, cs => readWord? cs

/- Arrays and tables on one line nest at most this deep. -/
def nestingLimit : Nat :=
  80

end Toml

end StorageRouting

------------------------------------------------------------
-- Statements
------------------------------------------------------------

namespace StorageRouting

namespace Toml

/- A statement of a document. -/
inductive Statement where
| assign (path : KeyPath) (v : Value) : Statement
| table (path : KeyPath) : Statement
| element (path : KeyPath) : Statement

/- A statement at the start of a text. -/
def readStatement?
    (cs : List Char) : Option (Statement × List Char) :=
  match cs with
  | '[' :: '[' :: rest => do
      let (path, rest) ← readPath? rest
      let rest ← after? ']' rest
      let rest ← after? ']' rest
      return (.element path, rest)
  | '[' :: rest => do
      let (path, rest) ← readPath? rest
      let rest ← after? ']' rest
      return (.table path, rest)
  | cs => do
      let (path, rest) ← readPath? cs
      let rest ← after? '=' rest
      let (v, rest) ← readValue? nestingLimit (skipSpace rest)
      return (.assign path v, rest)

/- All statements of a text, each on a line of its own. -/
def statements? : Nat → List Char → Option (List Statement)
| 0, _ => none
| fuel + 1, cs => do
    let cs ← skipLines? (cs.length + 1) cs
    if cs.isEmpty then some []
    else do
      let (s, rest) ← readStatement? cs
      let rest ← skipComment? rest
      if rest.isEmpty then some [s]
      else do
        let rest ← lineEnd? rest
        let more ← statements? fuel rest
        return s :: more

/-
  Follow statements: the fields of the document so far, and
  the path of the current table.
-/
def follow? :
    List String → List (String × Node) → List Statement →
      Option (List (String × Node))
| _, fields, [] => some fields
| current, fields, .assign p v :: rest => do
    let fields ←
      within? .implied (assign? p v) current .header fields
    follow? current fields rest
| _, fields, .table p :: rest => do
    let fields ← openTable? p fields
    follow? p.keys fields rest
| _, fields, .element p :: rest => do
    let fields ← openElement? p fields
    follow? p.keys fields rest

end Toml

end StorageRouting

------------------------------------------------------------
-- Documents
------------------------------------------------------------

namespace StorageRouting

namespace Toml

/- A text without the byte order mark at its start. -/
def dropMark : List Char → List Char
| c :: cs => if c.toNat = 0xFEFF then cs else c :: cs
| [] => []

/- The table that a document denotes. -/
def read? (s : String) : Option Value := do
  let cs := dropMark s.toList
  let statements ← statements? (cs.length + 1) cs
  let fields ← follow? [] [] statements
  return .object (fieldValues fields)

end Toml

end StorageRouting
