import StorageRouting.Document.Value
import StorageRouting.Number.Width
import StorageRouting.Text.Blank
import StorageRouting.Text.Hex

/-
  JSON text: the compact and the indented form of a value, and
  the reader of both.

  Key definitions include:
    * `Json.quote`
    * `Json.compact`
    * `Json.pretty`
    * `Json.read?`
-/

------------------------------------------------------------
-- Strings and Numbers
------------------------------------------------------------

namespace StorageRouting

namespace Json

/- Four hexadecimal digits of a code below 65536. -/
def hexFour (n : Nat) : List Char :=
  [Hex.digit (n / 4096 % 16), Hex.digit (n / 256 % 16),
    Hex.digit (n / 16 % 16), Hex.digit (n % 16)]

/- A character as it stands inside a quoted string. -/
def escapeChar (c : Char) : List Char :=
  if c = '"' then ['\\', '"']
  else if c = '\\' then ['\\', '\\']
  else if c = '\n' then ['\\', 'n']
  else if c = '\r' then ['\\', 'r']
  else if c = '\t' then ['\\', 't']
  else if c.toNat = 8 then ['\\', 'b']
  else if c.toNat = 12 then ['\\', 'f']
  else if c.toNat < 32 then '\\' :: 'u' :: hexFour c.toNat
  else [c]

/- A string between quotation marks. -/
def quote (s : String) : String :=
  String.ofList
    ('"' :: s.toList.flatMap escapeChar ++ ['"'])

/- The text of a number; JSON has no infinite ones. -/
def doubleText : Binary64 → String
| .finite negative m e => Binary64.text (.finite negative m e)
| _ => "null"

end Json

end StorageRouting

------------------------------------------------------------
-- Printing
------------------------------------------------------------

namespace StorageRouting

namespace Json

mutual

/- A value on one line without blanks. -/
def compact : Value → String
| .null => "null"
| .bool true => "true"
| .bool false => "false"
| .int n => toString n
| .double d => doubleText d
| .string s => quote s
| .stamp s => quote s
| .array items => "[" ++ compactItems items ++ "]"
| .object fields => "\x7b" ++ compactFields fields ++ "\x7d"

/- Elements separated by commas. -/
def compactItems : List Value → String
| [] => ""
| [v] => compact v
| v :: rest => compact v ++ "," ++ compactItems rest

/- Fields separated by commas. -/
def compactFields : List (String × Value) → String
| [] => ""
| [(k, v)] => quote k ++ ":" ++ compact v
| (k, v) :: rest =>
    quote k ++ ":" ++ compact v ++ "," ++ compactFields rest

end

/- A line break followed by the indentation of a depth. -/
def breakLine (depth : Nat) : String :=
  "\n" ++ Text.repeatChar ' ' (2 * depth)

mutual

/- A value over several lines, indented by two blanks. -/
def prettyAt (depth : Nat) : Value → String
| .null => "null"
| .bool true => "true"
| .bool false => "false"
| .int n => toString n
| .double d => doubleText d
| .string s => quote s
| .stamp s => quote s
| .array [] => "[]"
| .array (v :: rest) =>
    "[" ++ prettyItems (depth + 1) (v :: rest)
      ++ breakLine depth ++ "]"
| .object [] => "\x7b\x7d"
| .object (f :: rest) =>
    "\x7b" ++ prettyFields (depth + 1) (f :: rest)
      ++ breakLine depth ++ "\x7d"

/- Elements on lines of their own. -/
def prettyItems (depth : Nat) : List Value → String
| [] => ""
| [v] => breakLine depth ++ prettyAt depth v
| v :: rest =>
    breakLine depth ++ prettyAt depth v ++ ","
      ++ prettyItems depth rest

/- Fields on lines of their own. -/
def prettyFields (depth : Nat) :
    List (String × Value) → String
| [] => ""
| [(k, v)] =>
    breakLine depth ++ quote k ++ ": " ++ prettyAt depth v
| (k, v) :: rest =>
    breakLine depth ++ quote k ++ ": " ++ prettyAt depth v
      ++ "," ++ prettyFields depth rest

end

/- A value over several lines. -/
def pretty (v : Value) : String :=
  prettyAt 0 v

end Json

end StorageRouting

------------------------------------------------------------
-- Reading Tokens
------------------------------------------------------------

namespace StorageRouting

namespace Json

/- Blanks between the tokens of JSON. -/
def isSpace (c : Char) : Bool :=
  c == ' ' || c == '\n' || c == '\t' || c == '\r'

/- Drop blanks at the start. -/
def skipSpace (cs : List Char) : List Char :=
  cs.dropWhile isSpace

/- Four hexadecimal digits at the start of a text. -/
def readHexFour? :
    List Char → Option (Nat × List Char)
| a :: b :: c :: d :: rest => do
    let a ← Hex.value? a
    let b ← Hex.value? b
    let c ← Hex.value? c
    let d ← Hex.value? d
    return (((a * 16 + b) * 16 + c) * 16 + d, rest)
| _ => none

/-
  The character of a \u escape whose first four digits are
  read: a high surrogate needs a low one after it.
-/
def readUnicode?
    (n : Nat)
    (cs : List Char) : Option (Char × List Char) :=
  if 0xD800 ≤ n ∧ n < 0xDC00 then
    match cs with
    | '\\' :: 'u' :: rest => do
        let (low, rest) ← readHexFour? rest
        if 0xDC00 ≤ low ∧ low < 0xE000 then
          let code :=
            0x10000 + (n - 0xD800) * 0x400 + (low - 0xDC00)
          some (Char.ofNat code, rest)
        else none
    | _ => none
  else if 0xDC00 ≤ n ∧ n < 0xE000 then none
  else some (Char.ofNat n, cs)

/- The characters of a string up to its closing quote. -/
def readString? :
    Nat → List Char → List Char →
      Option (String × List Char)
| 0, _, _ => none
| _ + 1, _, [] => none
| fuel + 1, acc, c :: cs =>
    if c = '"' then some (String.ofList acc.reverse, cs)
    else if c = '\\' then
      match cs with
      | 'n' :: rest => readString? fuel ('\n' :: acc) rest
      | 'r' :: rest => readString? fuel ('\r' :: acc) rest
      | 't' :: rest => readString? fuel ('\t' :: acc) rest
      | 'b' :: rest =>
          readString? fuel (Char.ofNat 8 :: acc) rest
      | 'f' :: rest =>
          readString? fuel (Char.ofNat 12 :: acc) rest
      | '"' :: rest => readString? fuel ('"' :: acc) rest
      | '\\' :: rest => readString? fuel ('\\' :: acc) rest
      | '/' :: rest => readString? fuel ('/' :: acc) rest
      | 'u' :: rest =>
          match readHexFour? rest with
          | none => none
          | some (n, rest) =>
              match readUnicode? n rest with
              | none => none
              | some (c, rest) =>
                  readString? fuel (c :: acc) rest
      | _ => none
    else if c.toNat < 32 then none
    else readString? fuel (c :: acc) cs

/- The value of a run of decimal digits. -/
def digitsValue (cs : List Char) : Nat :=
  cs.foldl (fun n c => n * 10 + (c.toNat - 48)) 0

/- The parts of a number: digits, fraction and exponent. -/
structure NumberParts where
  negative : Bool
  whole : List Char
  fraction : Option (List Char)
  exponent : Option (Bool × List Char)

/- The exponent of a number at the start of a text. -/
def readExponent? :
    List Char → Option (Option (Bool × List Char) × List Char)
| c :: cs =>
    if c = 'e' ∨ c = 'E' then
      let (negative, cs) :=
        match cs with
        | '-' :: rest => (true, rest)
        | '+' :: rest => (false, rest)
        | _ => (false, cs)
      let digits := cs.takeWhile Char.isDigit
      if digits.isEmpty then none
      else some (some (negative, digits), cs.dropWhile Char.isDigit)
    else some (none, c :: cs)
| [] => some (none, [])

/- A number at the start of a text, in parts. -/
def readNumber?
    (cs : List Char) : Option (NumberParts × List Char) := do
  let (negative, cs) :=
    match cs with
    | '-' :: rest => (true, rest)
    | _ => (false, cs)
  let whole := cs.takeWhile Char.isDigit
  let cs := cs.dropWhile Char.isDigit
  if whole.isEmpty then none
  if whole.length > 1 && whole.head? == some '0' then none
  let (fraction, cs) ←
    match cs with
    | '.' :: rest =>
        let digits := rest.takeWhile Char.isDigit
        if digits.isEmpty then none
        else some (some digits, rest.dropWhile Char.isDigit)
    | _ => some (none, cs)
  let (exponent, cs) ← readExponent? cs
  return (⟨negative, whole, fraction, exponent⟩, cs)

/-
  Take digits into a number as long as it fits in 64 bits; the
  others are counted.
-/
def takeDigits :
    Nat → Nat → List Char → Nat × Nat × Nat
| n, taken, [] => (n, taken, 0)
| n, taken, c :: cs =>
    let next := n * 10 + (c.toNat - 48)
    if Width.isUnsigned 64 next then takeDigits next (taken + 1) cs
    else (n, taken, (c :: cs).length)

/-
  The double of a number in parts: digits beyond 64 bits are
  dropped, and the rest is rounded by the quick method.
-/
def NumberParts.double?
    (p : NumberParts) : Option Binary64 :=
  let (n, _, dropped) := takeDigits 0 0 p.whole
  let (n, taken, _) := takeDigits n 0 (p.fraction.getD [])
  let power : Int :=
    match p.exponent with
    | none => 0
    | some (true, digits) => -(digitsValue digits : Int)
    | some (false, digits) => digitsValue digits
  Binary64.ofDigits? p.negative n (power + dropped - taken)

/-
  The value of a number: an integer when it has neither
  fraction nor exponent and fits in 64 bits, else a double.
-/
def NumberParts.value?
    (p : NumberParts) : Option Value :=
  match p.fraction, p.exponent with
  | none, none =>
      let n := digitsValue p.whole
      if p.negative then
        if n ≠ 0 ∧ Width.isSigned 64 (-(n : Int)) then some (.int (-(n : Int)))
        else p.double?.map .double
      else if Width.isUnsigned 64 n then some (.int n)
      else p.double?.map .double
  | _, _ => p.double?.map .double

end Json

end StorageRouting

------------------------------------------------------------
-- Reading Values
------------------------------------------------------------

namespace StorageRouting

namespace Json

mutual

/- A value at the start of a text. -/
def readValue? :
    Nat → List Char → Option (Value × List Char)
| 0, _ => none
| fuel + 1, cs =>
    match skipSpace cs with
    | 'n' :: 'u' :: 'l' :: 'l' :: rest => some (.null, rest)
    | 't' :: 'r' :: 'u' :: 'e' :: rest =>
        some (.bool true, rest)
    | 'f' :: 'a' :: 'l' :: 's' :: 'e' :: rest =>
        some (.bool false, rest)
    | '"' :: rest =>
        match readString? (rest.length + 1) [] rest with
        | some (s, rest) => some (.string s, rest)
        | none => none
    | '[' :: rest =>
        match skipSpace rest with
        | ']' :: rest => some (.array [], rest)
        | rest => readItems? fuel [] rest
    | '\x7b' :: rest =>
        match skipSpace rest with
        | '\x7d' :: rest => some (.object [], rest)
        | rest => readFields? fuel [] rest
    | cs =>
        match readNumber? cs with
        | none => none
        | some (p, rest) =>
            match p.value? with
            | none => none
            | some v => some (v, rest)

/- The elements of an array up to its closing bracket. -/
def readItems? :
    Nat → List Value → List Char →
      Option (Value × List Char)
| 0, _, _ => none
| fuel + 1, acc, cs =>
    match readValue? fuel cs with
    | none => none
    | some (v, rest) =>
        match skipSpace rest with
        | ',' :: rest => readItems? fuel (v :: acc) rest
        | ']' :: rest =>
            some (.array (v :: acc).reverse, rest)
        | _ => none

/-
  The fields of an object up to its closing brace, by
  ascending name; of equal names the last one counts.
-/
def readFields? :
    Nat → List (String × Value) → List Char →
      Option (Value × List Char)
| 0, _, _ => none
| fuel + 1, acc, cs =>
    match skipSpace cs with
    | '"' :: rest =>
        match readString? (rest.length + 1) [] rest with
        | none => none
        | some (name, rest) =>
            match skipSpace rest with
            | ':' :: rest =>
                match readValue? fuel rest with
                | none => none
                | some (v, rest) =>
                    let acc := Value.insertField name v acc
                    match skipSpace rest with
                    | ',' :: rest => readFields? fuel acc rest
                    | '\x7d' :: rest => some (.object acc, rest)
                    | _ => none
            | _ => none
    | _ => none

end

/- The value that a whole text denotes. -/
def read? (s : String) : Option Value :=
  let cs := s.toList
  match readValue? (cs.length + 1) cs with
  | some (v, rest) =>
      if (skipSpace rest).isEmpty then some v else none
  | none => none

end Json

end StorageRouting
