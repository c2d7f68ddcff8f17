import StorageRouting.Document.Value
import StorageRouting.Number.Decimal
import StorageRouting.Number.Width
import StorageRouting.Text.Blank
import StorageRouting.Text.Hex
import StorageRouting.Time.Calendar

/-
  Reading the literals of TOML: strings, numbers, truth values,
  dates and times.

  Key definitions include:
    * `Toml.readString?`
    * `Toml.wordValue?`
    * `Toml.readWord?`
-/

------------------------------------------------------------
-- Blanks, Line Ends and Comments
------------------------------------------------------------

namespace StorageRouting

namespace Toml

/- Blanks within a line. -/
def isSpace (c : Char) : Bool :=
  c == ' ' || c == '\t'

/- Drop blanks at the start. -/
def skipSpace (cs : List Char) : List Char :=
  cs.dropWhile isSpace

/- What follows a line end at the start of a text. -/
def lineEnd? : List Char → Option (List Char)
| '\n' :: rest => some rest
| '\r' :: '\n' :: rest => some rest
| _ => none

/- A character that may not stand in a document as it is. -/
def isForbidden (c : Char) : Bool :=
  (c.toNat < 32 && c != '\t') || c.toNat == 127

/-
  Drop blanks, and then a comment, whose characters must all
  be allowed.  What is left starts with a line end, or with
  the next token, or is empty.
-/
def skipComment? (cs : List Char) : Option (List Char) :=
  match skipSpace cs with
  | '#' :: rest =>
      let rest := rest.dropWhile (fun c => !isForbidden c)
      if rest.isEmpty || (lineEnd? rest).isSome then some rest
      else none
  | cs => some cs

/- Drop blanks, comments and line ends. -/
def skipLines? : Nat → List Char → Option (List Char)
| 0, _ => none
| fuel + 1, cs => do
    let cs ← skipComment? cs
    match lineEnd? cs with
    | some rest => skipLines? fuel rest
    | none => some cs

end Toml

end StorageRouting

------------------------------------------------------------
-- Strings
------------------------------------------------------------

namespace StorageRouting

namespace Toml

/- The character of a code written in some hexadecimal digits. -/
def readCode?
    (digits : Nat)
    (cs : List Char) : Option (Char × List Char) :=
  if (cs.take digits).length < digits then none
  else
    match Hex.number? (cs.take digits) with
    | some n =>
        if n < 0x110000 ∧ ¬(0xD800 ≤ n ∧ n < 0xE000) then
          some (Char.ofNat n, cs.drop digits)
        else none
    | none => none

/- The character of an escape, after its backslash. -/
def readEscape? : List Char → Option (Char × List Char)
| 'b' :: rest => some (Char.ofNat 8, rest)
| 't' :: rest => some ('\t', rest)
| 'n' :: rest => some ('\n', rest)
| 'f' :: rest => some (Char.ofNat 12, rest)
| 'r' :: rest => some ('\r', rest)
| 'e' :: rest => some (Char.ofNat 27, rest)
| '"' :: rest => some ('"', rest)
| '\\' :: rest => some ('\\', rest)
| 'x' :: rest => readCode? 2 rest
| 'u' :: rest => readCode? 4 rest
| 'U' :: rest => readCode? 8 rest
| _ => none

/- A string in basic quotes, up to the closing one. -/
def readBasic? :
    Nat → List Char → List Char →
      Option (String × List Char)
| 0, _, _ => none
| _ + 1, _, [] => none
| fuel + 1, acc, c :: cs =>
    if c = '"' then some (String.ofList acc.reverse, cs)
    else if c = '\\' then
      match readEscape? cs with
      | some (c, rest) => readBasic? fuel (c :: acc) rest
      | none => none
    else if isForbidden c then none
    else readBasic? fuel (c :: acc) cs

/- A string in literal quotes, up to the closing one. -/
def readLiteral?
    (acc : List Char) :
    List Char → Option (String × List Char)
| [] => none
| c :: cs =>
    if c = '\'' then some (String.ofList acc.reverse, cs)
    else if isForbidden c then none
    else readLiteral? (c :: acc) cs

/-
  The end of a string over several lines, which has three
  quotes and up to two more before them that belong to it.
-/
def closing?
    (q : Char)
    (cs : List Char) : Option (List Char × List Char) :=
  let run := (cs.takeWhile (fun c => c == q)).length
  if run < 3 then none
  else if run = 3 then some ([], cs.drop 3)
  else if run = 4 then some ([q], cs.drop 4)
  else some ([q, q], cs.drop 5)

/- Whether a text is blank up to a line end. -/
def endsLine (cs : List Char) : Bool :=
  (lineEnd? (skipSpace cs)).isSome

/- Drop blanks and line ends. -/
def skipBlankLines (cs : List Char) : List Char :=
  cs.dropWhile (fun c => isSpace c || c == '\n' || c == '\r')

/-
  A string over several lines, up to its closing quotes.  A
  backslash at the end of a line joins it to the next text.
-/
def readManyLines?
    (q : Char) :
    Nat → List Char → List Char →
      Option (String × List Char)
| 0, _, _ => none
| _ + 1, _, [] => none
| fuel + 1, acc, c :: cs =>
    match closing? q (c :: cs) with
    | some (more, rest) =>
        some (String.ofList (acc.reverse ++ more), rest)
    | none =>
        match lineEnd? (c :: cs) with
        | some rest =>
            let acc :=
              if c = '\n' then '\n' :: acc
              else '\n' :: '\r' :: acc
            readManyLines? q fuel acc rest
        | none =>
            if c = '\\' ∧ q = '"' then
              if endsLine cs then
                readManyLines? q fuel acc (skipBlankLines cs)
              else
                match readEscape? cs with
                | some (c, rest) =>
                    readManyLines? q fuel (c :: acc) rest
                | none => none
            else if isForbidden c then none
            else readManyLines? q fuel (c :: acc) cs

/- Drop the line end right after the opening quotes. -/
def dropLineEnd (cs : List Char) : List Char :=
  (lineEnd? cs).getD cs

/- A string on one line, without its forms over several. -/
def readShort? : List Char → Option (String × List Char)
| '"' :: rest => readBasic? (rest.length + 1) [] rest
| '\'' :: rest => readLiteral? [] rest
| _ => none

/- A string in any of its forms. -/
def readString? : List Char → Option (String × List Char)
| '"' :: '"' :: '"' :: rest =>
    readManyLines? '"' (rest.length + 1) [] (dropLineEnd rest)
| '\'' :: '\'' :: '\'' :: rest =>
    readManyLines? '\'' (rest.length + 1) [] (dropLineEnd rest)
| cs => readShort? cs

end Toml

end StorageRouting

------------------------------------------------------------
-- Numbers
------------------------------------------------------------

namespace StorageRouting

namespace Toml

/- Digits in which underscores stand between two digits. -/
def digits?
    (isDigit : Char → Bool)
    (cs : List Char) : Option (List Char) :=
  let groups := Text.splitAll '_' cs
  if groups.all (fun g => !g.isEmpty && g.all isDigit) then
    some groups.flatten
  else none

/- Decimal digits without needless leading zeros. -/
def wholeDigits? (cs : List Char) : Option (List Char) :=
  match digits? Char.isDigit cs with
  | some ('0' :: _ :: _) => none
  | ds => ds

/- The value of digits in a base. -/
def numberIn
    (base : Nat)
    (cs : List Char) : Nat :=
  cs.foldl
    (fun n c => n * base + (Hex.value? c).getD 0)
    0

/- Whether a character is a digit in a base. -/
def isDigitIn
    (base : Nat)
    (c : Char) : Bool :=
  match Hex.value? c with
  | some d => d < base
  | none => false

/- An integer that fits in 128 bits. -/
def intValue? (n : Int) : Option Value :=
  if -(Width.count 127 : Int) ≤ n ∧ n < Width.count 128 then
    some (.int n)
  else none

/- An integer in one of the bases with a mark. -/
def markedValue?
    (base : Nat)
    (cs : List Char) : Option Value := do
  let ds ← digits? (isDigitIn base) cs
  intValue? (numberIn base ds)

/- The optional sign at the start of a number. -/
def takeSign : List Char → Bool × List Char
| '-' :: cs => (true, cs)
| '+' :: cs => (false, cs)
| cs => (false, cs)

/- A number with a fraction, an exponent, or both. -/
def doubleValue?
    (negative : Bool)
    (cs : List Char) : Option Value := do
  let isMark := fun c => c == 'e' || c == 'E'
  let (mantissa, power) ←
    match Text.splitFirst isMark cs with
    | none => some (cs, (0 : Int))
    | some (mantissa, exponent) => do
        let (below, ds) := takeSign exponent
        let ds ← digits? Char.isDigit ds
        let n : Int := Decimal.value ds
        some (mantissa, if below then -n else n)
  let (whole, fraction) ←
    match Text.splitFirst (fun c => c == '.') mantissa with
    | none => some (mantissa, [])
    | some (whole, fraction) => do
        let ds ← digits? Char.isDigit fraction
        some (whole, ds)
  let whole ← wholeDigits? whole
  let d ←
    Binary64.ofDecimal? negative
      (Decimal.value (whole ++ fraction))
      (power - fraction.length)
  return .double d

/- A decimal number, after its sign. -/
def decimalValue?
    (negative : Bool)
    (cs : List Char) : Option Value :=
  if cs = ['i', 'n', 'f'] then
    some (.double (.infinite negative))
  else if cs = ['n', 'a', 'n'] then some (.double .notANumber)
  else if cs.any (fun c => c == '.' || c == 'e' || c == 'E') then
    doubleValue? negative cs
  else do
    let ds ← wholeDigits? cs
    let n : Int := Decimal.value ds
    intValue? (if negative then -n else n)

end Toml

end StorageRouting

------------------------------------------------------------
-- Dates and Times
------------------------------------------------------------

namespace StorageRouting

namespace Toml

/- A number of a fixed count of digits at the start. -/
def readFixed?
    (count : Nat)
    (cs : List Char) : Option (Nat × List Char) :=
  let ds := cs.take count
  if ds.length = count ∧ ds.all Char.isDigit then
    some (Decimal.value ds, cs.drop count)
  else none

/- What follows a given character at the start of a text. -/
def after?
    (expected : Char) : List Char → Option (List Char)
| [] => none
| c :: cs => if c = expected then some cs else none

/- What follows a date at the start of a text. -/
def afterDate? (cs : List Char) : Option (List Char) := do
  let (year, cs) ← readFixed? 4 cs
  let cs ← after? '-' cs
  let (month, cs) ← readFixed? 2 cs
  let cs ← after? '-' cs
  let (day, cs) ← readFixed? 2 cs
  if Date.isValid ⟨year, month, day⟩ then some cs else none

/- What follows the fraction of a second, which may be missing. -/
def afterFraction? : List Char → Option (List Char)
| '.' :: cs =>
    if (cs.takeWhile Char.isDigit).isEmpty then none
    else some (cs.dropWhile Char.isDigit)
| cs => some cs

/-
  What follows a time of day at the start of a text; its
  seconds may be missing.
-/
def afterTime? (cs : List Char) : Option (List Char) := do
  let (hour, cs) ← readFixed? 2 cs
  let cs ← after? ':' cs
  let (minute, cs) ← readFixed? 2 cs
  if hour > 23 ∨ minute > 59 then none
  match cs with
  | ':' :: cs => do
      let (second, cs) ← readFixed? 2 cs
      if second > 60 then none else afterFraction? cs
  | cs => some cs

/- Whether a text is an offset from universal time, or empty. -/
def isOffset : List Char → Bool
| [] => true
| ['Z'] => true
| ['z'] => true
| c :: cs =>
    if c = '+' ∨ c = '-' then
      match afterTime? cs with
      | some [] => cs.length == 5
      | _ => false
    else false

/- Whether a text is a date, a time of day, or both. -/
def isMoment (cs : List Char) : Bool :=
  match afterDate? cs with
  | some [] => true
  | some (c :: rest) =>
      if c = 'T' ∨ c = 't' ∨ c = ' ' then
        match afterTime? rest with
        | some rest => isOffset rest
        | none => false
      else false
  | none => afterTime? cs = some []

end Toml

end StorageRouting

------------------------------------------------------------
-- Words
------------------------------------------------------------

namespace StorageRouting

namespace Toml

/- The value of a word that stands without quotes. -/
def wordValue? (cs : List Char) : Option Value :=
  if cs = "true".toList then some (.bool true)
  else if cs = "false".toList then some (.bool false)
  else if isMoment cs then some (.stamp (String.ofList cs))
  else
    match cs with
    | '0' :: 'x' :: cs => markedValue? 16 cs
    | '0' :: 'o' :: cs => markedValue? 8 cs
    | '0' :: 'b' :: cs => markedValue? 2 cs
    | cs =>
        let (negative, cs) := takeSign cs
        decimalValue? negative cs

/- A character of a word. -/
def isWordChar (c : Char) : Bool :=
  c.isAlphanum || c == '+' || c == '-' || c == '_' ||
    c == '.' || c == ':'

/-
  A word at the start of a text.  A blank between a date and a
  time of day belongs to it.
-/
def takeWord (cs : List Char) : List Char × List Char :=
  let word := cs.takeWhile isWordChar
  let rest := cs.dropWhile isWordChar
  match afterDate? word, rest with
  | some [], ' ' :: c :: rest =>
      if c.isDigit then
        (word ++ ' ' :: (c :: rest).takeWhile isWordChar,
          (c :: rest).dropWhile isWordChar)
      else (word, ' ' :: c :: rest)
  | _, _ => (word, rest)

/- The value of the word at the start of a text. -/
def readWord?
    (cs : List Char) : Option (Value × List Char) := do
  let (word, rest) := takeWord cs
  let v ← wordValue? word
  return (v, rest)

end Toml

end StorageRouting
