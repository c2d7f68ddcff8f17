import StorageRouting.Text.Hex
import StorageRouting.Text.Blank

/-
  The written forms of TOML strings and keys: plain quotes
  where they suffice, then literal quotes, then the forms over
  several lines.

  Key definitions include:
    * `Toml.Traits`
    * `Toml.Form`
    * `Toml.Form.ofText`
    * `Toml.stringText`
    * `Toml.keyText`
-/

------------------------------------------------------------
-- What a Text Contains
------------------------------------------------------------

namespace StorageRouting

namespace Toml

/- A control character, other than tab and line feed. -/
def isControl (c : Char) : Bool :=
  (c.toNat < 32 && c != '\t' && c != '\n') || c.toNat == 127

/- The length of the longest run of a character in a text. -/
def longestRun
    (q : Char)
    (current longest : Nat) : List Char → Nat
| [] => longest
| c :: cs =>
    if c = q then
      longestRun q (current + 1) (max longest (current + 1)) cs
    else longestRun q 0 longest cs

/- What decides how a text can be written. -/
structure Traits where
  singleQuotes : Nat
  doubleQuotes : Nat
  backslash : Bool
  control : Bool
  lineFeed : Bool

/- The traits of a text. -/
def Traits.ofText (cs : List Char) : Traits :=
  { singleQuotes := longestRun '\'' 0 0 cs
    doubleQuotes := longestRun '"' 0 0 cs
    backslash := cs.contains '\\'
    control := cs.any isControl
    lineFeed := cs.contains '\n' }

end Toml

end StorageRouting

------------------------------------------------------------
-- The Form of a String
------------------------------------------------------------

namespace StorageRouting

namespace Toml

/- The four forms of a string. -/
inductive Form where
| basic : Form
| literal : Form
| basicLines : Form
| literalLines : Form
deriving DecidableEq, Repr

namespace Form

/- Whether a form may hold line feeds. -/
def isMultiLine : Form → Bool
| .basic => false
| .literal => false
| .basicLines => true
| .literalLines => true

/- Whether a form has escapes. -/
def hasEscapes : Form → Bool
| .basic => true
| .literal => false
| .basicLines => true
| .literalLines => false

/- The quotes on both sides of a form. -/
def quotes : Form → String
| .basic => "\""
| .literal => "'"
| .basicLines => "\"\"\""
| .literalLines => "'''"

/-
  The form of a string value: the first form that needs no
  escape, in the order of declaration; a form with escapes if
  there is none.
-/
def ofText (t : Traits) : Form :=
  if !t.control && !t.backslash && t.doubleQuotes == 0 &&
      !t.lineFeed then .basic
  else if !t.control && t.singleQuotes == 0 && !t.lineFeed then
    .literal
  else if !t.control && !t.backslash && t.doubleQuotes ≤ 2 then
    .basicLines
  else if !t.control && t.singleQuotes ≤ 2 then .literalLines
  else if t.lineFeed then .basicLines
  else .basic

end Form

end Toml

end StorageRouting

------------------------------------------------------------
-- Escaping
------------------------------------------------------------

namespace StorageRouting

namespace Toml

/- The escape of a character by its code. -/
def codeEscape (c : Char) : List Char :=
  let n := c.toNat
  ['\\', 'u', '0', '0', Hex.upperDigit (n / 16),
    Hex.upperDigit (n % 16)]

/-
  The escape that a character needs in basic quotes, on one
  line or over several.
-/
def escape?
    (multiLine : Bool)
    (c : Char) : Option (List Char) :=
  if c.toNat = 8 then some ['\\', 'b']
  else if c = '\t' then some ['\\', 't']
  else if c = '\n' then
    if multiLine then none else some ['\\', 'n']
  else if c.toNat = 12 then some ['\\', 'f']
  else if c = '\r' then some ['\\', 'r']
  else if c = '\\' then some ['\\', '\\']
  else if isControl c then some (codeEscape c)
  else none

/-
  A text between basic quotes.  Of the double quotes in a row
  only as many stand bare as the form allows.
-/
def escaped
    (multiLine : Bool) :
    Nat → List Char → List Char
| _, [] => []
| quotes, c :: cs =>
    if c = '"' then
      if quotes < (if multiLine then 2 else 0) then
        '"' :: escaped multiLine (quotes + 1) cs
      else '\\' :: '"' :: escaped multiLine 0 cs
    else
      match escape? multiLine c with
      | some es => es ++ escaped multiLine 0 cs
      | none => c :: escaped multiLine 0 cs

/- A text in a given form. -/
def written
    (form : Form)
    (cs : List Char) : String :=
  let start :=
    if form.isMultiLine && cs.contains '\n' then "\n" else ""
  let body :=
    if form.hasEscapes then escaped form.isMultiLine 0 cs
    else cs
  form.quotes ++ start ++ String.ofList body ++ form.quotes

/- A string value. -/
def stringText (s : String) : String :=
  let cs := s.toList
  written (Form.ofText (Traits.ofText cs)) cs

end Toml

end StorageRouting

------------------------------------------------------------
-- Keys
------------------------------------------------------------

namespace StorageRouting

namespace Toml

/- A character that a key may hold without quotes. -/
def isKeyChar (c : Char) : Bool :=
  c.isAlphanum || c == '-' || c == '_'

/-
  A key: bare where possible, and never over several lines.
-/
def keyText (s : String) : String :=
  let cs := s.toList
  let t := Traits.ofText cs
  let control := t.control || t.lineFeed
  if !cs.isEmpty && cs.all isKeyChar then s
  else if !control && !t.backslash && t.doubleQuotes == 0 then
    written .basic cs
  else if !control && t.singleQuotes == 0 then
    written .literal cs
  else written .basic cs

/- The keys of a path, separated by dots. -/
def pathText (path : List String) : String :=
  Text.joinWith "." (path.map keyText)

end Toml

end StorageRouting
