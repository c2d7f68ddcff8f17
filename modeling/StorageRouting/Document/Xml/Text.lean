import StorageRouting.Number.Width
import StorageRouting.Text.Blank
import StorageRouting.Text.Hex

/-
  Characters, names and escaped text of XML.

  Key definitions include:
    * `Xml.isNameStart`
    * `Xml.isNameChar`
    * `Xml.escaped`
    * `Xml.unescape?`
-/

------------------------------------------------------------
-- Characters
------------------------------------------------------------

namespace StorageRouting

namespace Xml

/- White space between the parts of a tag. -/
def isSpace (c : Char) : Bool :=
  c == ' ' || c == '\t' || c == '\n' || c == '\r'

/- A character that may stand in a document. -/
def isLegal (c : Char) : Bool :=
  let n := c.toNat
  if n < 32 then isSpace c else n != 0xFFFE && n != 0xFFFF

/- A character that may begin a name. -/
def isNameStart (c : Char) : Bool :=
  let n := c.toNat
  c.isAlpha || c == ':' || c == '_' ||
    (0xC0 ≤ n && n ≤ 0xD6) || (0xD8 ≤ n && n ≤ 0xF6) ||
    (0xF8 ≤ n && n ≤ 0x2FF) || (0x370 ≤ n && n ≤ 0x37D) ||
    (0x37F ≤ n && n ≤ 0x1FFF) || n == 0x200C || n == 0x200D ||
    (0x2070 ≤ n && n ≤ 0x218F) || (0x2C00 ≤ n && n ≤ 0x2FEF) ||
    (0x3001 ≤ n && n ≤ 0xD7FF) || (0xF900 ≤ n && n ≤ 0xFDCF) ||
    (0xFDF0 ≤ n && n ≤ 0xFFFD) || (0x10000 ≤ n && n ≤ 0xEFFFF)

/- A character that may stand in a name. -/
def isNameChar (c : Char) : Bool :=
  let n := c.toNat
  isNameStart c || c.isDigit || c == '-' || c == '.' ||
    n == 0xB7 || (0x300 ≤ n && n ≤ 0x36F) || n == 0x203F ||
    n == 0x2040

end Xml

end StorageRouting

------------------------------------------------------------
-- Escapes
------------------------------------------------------------

namespace StorageRouting

namespace Xml

/- A character as it is written in text. -/
def escapedChar : Char → List Char
| '&' => "&amp;".toList
| '<' => "&lt;".toList
| '>' => "&gt;".toList
| '"' => "&quot;".toList
| '\'' => "&apos;".toList
| '\r' => "&#xD;".toList
| '\n' => "&#xA;".toList
| c =>
    if c.toNat = 0x85 then "&#x85;".toList
    else if c.toNat = 0x2028 then "&#x2028;".toList
    else [c]

/- Text as it is written in a document. -/
def escaped (s : String) : String :=
  String.ofList (s.toList.flatMap escapedChar)

/- The number of digits in a base. -/
def number?
    (base : Nat)
    (cs : List Char) : Option Nat :=
  let digits :=
    match cs with
    | '+' :: rest => rest
    | cs => cs
  if digits.isEmpty then none
  else
    digits.foldl
      (fun acc c =>
        match acc, Hex.value? c with
        | some n, some d =>
            if d < base ∧ Width.isUnsigned 32 (n * base + d) then
              some (n * base + d)
            else none
        | _, _ => none)
      (some 0)

/- The character of a number, if there is one. -/
def charOf? (n : Nat) : Option Char :=
  if n.isValidChar then some (Char.ofNat n) else none

/- The character that an escape stands for. -/
def charOfEscape? (name : List Char) : Option Char :=
  match String.ofList name with
  | "lt" => some '<'
  | "gt" => some '>'
  | "amp" => some '&'
  | "quot" => some '"'
  | "apos" => some '\''
  | _ =>
      match name with
      | '#' :: 'x' :: digits => (number? 16 digits).bind charOf?
      | '#' :: digits => (number? 10 digits).bind charOf?
      | _ => none

/- Put characters in the place of escapes, at most so many. -/
def unescapeChars? : Nat → List Char → Option (List Char)
| _, [] => some []
| 0, _ => none
| fuel + 1, '&' :: cs =>
    match Text.splitFirst (· == ';') (cs.takeWhile (· ≠ '&')) with
    | none => none
    | some (name, _) => do
        let c ← charOfEscape? name
        let more ← unescapeChars? fuel (cs.drop (name.length + 1))
        return c :: more
| fuel + 1, c :: cs => do
    let more ← unescapeChars? fuel cs
    return c :: more

/- The text that a written text stands for. -/
def unescape? (s : String) : Option String :=
  (unescapeChars? s.toList.length s.toList).map String.ofList

end Xml

end StorageRouting
