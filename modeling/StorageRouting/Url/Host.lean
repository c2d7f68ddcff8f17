import StorageRouting.Number.Decimal
import StorageRouting.Text.Blank
import StorageRouting.Url.Encoding
import StorageRouting.Url.Punycode

/-
  Hosts of URLs: domain names and addresses.

  Key definitions include:
    * `UrlError`
    * `Host.domain?`
    * `Host.fourBytes`
    * `Host.eightWords?`
    * `Host.special`
    * `Host.plain`
-/

------------------------------------------------------------
-- Errors
------------------------------------------------------------

namespace StorageRouting

/- Why a text is not a URL. -/
inductive UrlError where
| emptyHost : UrlError
| internationalName : UrlError
| port : UrlError
| fourByteAddress : UrlError
| eightWordAddress : UrlError
| domainCharacter : UrlError
| noBase : UrlError
deriving DecidableEq, Repr

namespace UrlError

/- The text of a failure. -/
def text : UrlError → String
| .emptyHost => "empty host"
| .internationalName => "invalid international domain name"
| .port => "invalid port number"
| .fourByteAddress => "invalid IPv4 address"
| .eightWordAddress => "invalid IPv6 address"
| .domainCharacter => "invalid domain character"
| .noBase => "relative URL without a base"

end UrlError

end StorageRouting

------------------------------------------------------------
-- Domain Names
------------------------------------------------------------

namespace StorageRouting

namespace Host

/- A character in the form that domain names are compared in. -/
def fold (c : Char) : List Char :=
  let n := c.toNat
  let up := fun (k : Nat) => [Char.ofNat (n + k)]
  if n < 128 then [c.toLower]
  else if n = 0xAD ∨ n = 0x200B ∨ n = 0x2060 ∨ n = 0xFEFF then []
  else if n = 0x3002 ∨ n = 0xFF0E ∨ n = 0xFF61 then ['.']
  else if 0xC0 ≤ n ∧ n ≤ 0xDE ∧ n ≠ 0xD7 then up 32
  else if 0x100 ≤ n ∧ n < 0x138 ∧ n ≠ 0x130 then
    if n % 2 = 0 then up 1 else [c]
  else if 0x139 ≤ n ∧ n < 0x149 ∨ 0x179 ≤ n ∧ n < 0x17E then
    if n % 2 = 1 then up 1 else [c]
  else if 0x14A ≤ n ∧ n < 0x178 then
    if n % 2 = 0 then up 1 else [c]
  else if 0x391 ≤ n ∧ n ≤ 0x3A9 then up 32
  else if 0x400 ≤ n ∧ n ≤ 0x40F then up 80
  else if 0x410 ≤ n ∧ n ≤ 0x42F then up 32
  else if 0xFF01 ≤ n ∧ n ≤ 0xFF5E then
    [(Char.ofNat (n - 0xFEE0)).toLower]
  else [c]

/- A character that a domain name must not hold. -/
def isForbidden (c : Char) : Bool :=
  c.toNat ≤ 32 || c.toNat == 127 || c.toNat == 0xFFFD ||
    ['%', '#', '/', ':', '<', '>', '?', '@', '[', '\\', ']', '^',
      '|'].contains c

/-
  A character beyond ASCII that names nothing: controls, marks
  of direction, joiners, and what is for private use.
-/
def isNameless (c : Char) : Bool :=
  let n := c.toNat
  (128 ≤ n && n ≤ 159) || (0x200B ≤ n && n ≤ 0x200F) ||
    (0x2028 ≤ n && n ≤ 0x202E) || (0x2060 ≤ n && n ≤ 0x206F) ||
    (0xE000 ≤ n && n ≤ 0xF8FF) || (0xFDD0 ≤ n && n ≤ 0xFDEF) ||
    (0xFFF0 ≤ n && n ≤ 0xFFFF) || 0xE0000 ≤ n

/- A mark that belongs to the character in front of it. -/
def isAccent (c : Char) : Bool :=
  0x300 ≤ c.toNat && c.toNat ≤ 0x36F

/- Whether a label is fit to be in a domain name. -/
def isLabel (cs : List Char) : Bool :=
  !cs.any isForbidden && !cs.any isNameless &&
    cs.head?.all (fun c => !isAccent c)

/- A label in ASCII, if it is fit. -/
def label? (cs : List Char) : Option (List Char) :=
  match Text.dropStart? Punycode.mark cs with
  | some rest =>
      match Punycode.plain? rest with
      | none => none
      | some plain =>
          if isLabel plain && plain.flatMap fold == plain then some cs
          else none
  | none => if isLabel cs then some (Punycode.label cs) else none

/- A domain name in ASCII letters of lower case. -/
def domain? (s : String) : Option String :=
  let cs := s.toList.flatMap fold
  ((Text.splitAll '.' cs).mapM label?).map (fun labels =>
    Text.joinWith "." (labels.map String.ofList))

end Host

end StorageRouting

------------------------------------------------------------
-- Addresses of Four Bytes
------------------------------------------------------------

namespace StorageRouting

namespace Host

/- The number of digits in a base; `none` if one is not. -/
def numberIn?
    (base : Nat)
    (cs : List Char) : Option Nat :=
  cs.foldl
    (fun acc c =>
      match acc, Hex.value? c with
      | some n, some d =>
          if d < base then some (n * base + d) else none
      | _, _ => none)
    (some 0)

/- A part of an address: decimal, octal or hexadecimal. -/
def addressPart? : List Char → Option Nat
| [] => none
| '0' :: 'x' :: cs => numberIn? 16 cs
| '0' :: 'X' :: cs => numberIn? 16 cs
| '0' :: c :: cs => numberIn? 8 (c :: cs)
| cs => numberIn? 10 cs

/- The parts of a dotted name, without an empty last one. -/
def dottedParts (cs : List Char) : List (List Char) :=
  let parts := Text.splitAll '.' cs
  if parts.length > 1 ∧ parts.getLast? = some [] then
    parts.dropLast
  else parts

/- Whether the last part of a name is a number. -/
def endsInNumber (cs : List Char) : Bool :=
  match (dottedParts cs).getLast? with
  | none => false
  | some last =>
      (!last.isEmpty && last.all Char.isDigit) ||
        (addressPart? last).isSome

/- The address that a dotted name denotes. -/
def fourBytes? (cs : List Char) : Option Nat := do
  let parts := dottedParts cs
  if parts.length > 4 then none
  let numbers ← parts.mapM addressPart?
  let last ← numbers.getLast?
  let leading := numbers.dropLast
  if leading.any (fun n => n > 255) then none
  if last ≥ Nat.pow 256 (4 - leading.length) then none
  let high :=
    leading.zipIdx.foldl
      (fun acc p => acc + p.1 * Nat.pow 256 (3 - p.2)) 0
  return high + last

/- An address of four bytes in decimal. -/
def fourBytesText (n : Nat) : String :=
  Text.joinWith "."
    ([n / 16777216, n / 65536 % 256, n / 256 % 256, n % 256].map
      toString)

end Host

end StorageRouting

------------------------------------------------------------
-- Addresses of Eight Words
------------------------------------------------------------

namespace StorageRouting

namespace Host

/- A word of one to four hexadecimal digits. -/
def word? (cs : List Char) : Option Nat :=
  if cs.isEmpty ∨ cs.length > 4 then none else Hex.number? cs

/- A byte in decimal without leading zeros. -/
def byte? (cs : List Char) : Option Nat :=
  if cs.isEmpty ∨ cs.length > 3 ∨ !cs.all Char.isDigit then none
  else if cs.length > 1 ∧ cs.head? = some '0' then none
  else if Decimal.value cs > 255 then none
  else some (Decimal.value cs)

/- Two words written as four bytes in decimal. -/
def wordPair? (cs : List Char) : Option (List Nat) :=
  match (Text.splitAll '.' cs).mapM byte? with
  | some [a, b, c, d] => some [a * 256 + b, c * 256 + d]
  | _ => none

/- Words separated by colons; the last two may be four bytes. -/
def words? (cs : List Char) : Option (List Nat) :=
  if cs.isEmpty then some []
  else
    let parts := Text.splitAll ':' cs
    match parts.getLast? with
    | none => none
    | some last => do
        let front ← parts.dropLast.mapM word?
        let back ←
          if last.contains '.' then wordPair? last
          else (word? last).map (fun w => [w])
        return front ++ back

/- Cut a text at its first double colon. -/
def cutDouble :
    List Char → List Char → Option (List Char × List Char)
| _, [] => none
| acc, ':' :: ':' :: rest => some (acc.reverse, rest)
| acc, c :: rest => cutDouble (c :: acc) rest

/-
  The eight words of an address; a double colon stands for one
  zero or more.
-/
def eightWords? (cs : List Char) : Option (List Nat) :=
  match cutDouble [] cs with
  | none => do
      let words ← words? cs
      if words.length = 8 then some words else none
  | some (front, back) => do
      if front.contains '.' then none
      let front ← words? front
      let back ← words? back
      let count := front.length + back.length
      if count < 8 then
        some (front ++ List.replicate (8 - count) 0 ++ back)
      else none

/- The length of the run of zeros at the start of some words. -/
def zeroRun (words : List Nat) : Nat :=
  (words.takeWhile (fun w => w == 0)).length

/- The longest run of zeros: its length and its first place. -/
def longestZeros :
    Nat → Nat × Nat → List Nat → Nat × Nat
| _, best, [] => best
| i, best, w :: rest =>
    let run := zeroRun (w :: rest)
    longestZeros (i + 1)
      (if best.1 < run then (run, i) else best) rest

/- A word in hexadecimal. -/
def wordText (w : Nat) : String :=
  String.ofList (Hex.digits 5 w)

/-
  Eight words in their shortest form: the first of the longest
  runs of two zeros or more becomes a double colon.
-/
def eightWordsText (words : List Nat) : String :=
  let (run, place) := longestZeros 0 (0, 0) words
  let texts := words.map wordText
  if run < 2 then Text.joinWith ":" texts
  else
    Text.joinWith ":" (texts.take place) ++ "::" ++
      Text.joinWith ":" (texts.drop (place + run))

/- An address in brackets. -/
def bracketed
    (cs : List Char) : Except UrlError String :=
  match cs.reverse with
  | ']' :: inner =>
      match eightWords? inner.reverse with
      | some words => .ok ("[" ++ eightWordsText words ++ "]")
      | none => .error .eightWordAddress
  | _ => .error .eightWordAddress

end Host

end StorageRouting

------------------------------------------------------------
-- Hosts
------------------------------------------------------------

namespace StorageRouting

namespace Host

/- The host of a URL whose scheme gives hosts a meaning. -/
def special : List Char → Except UrlError String
| '[' :: rest => bracketed rest
| cs => do
    match (Url.percentDecode? cs).bind domain? with
    | none => .error .internationalName
    | some name =>
        if name.isEmpty then .error .emptyHost
        else if endsInNumber name.toList then
          match fourBytes? name.toList with
          | some n => .ok (fourBytesText n)
          | none => .error .fourByteAddress
        else .ok name

/- A character that no host can hold. -/
def isBarred (c : Char) : Bool :=
  c.toNat == 0 ||
    ['\t', '\n', '\r', ' ', '#', '/', ':', '<', '>', '?', '@',
      '[', '\\', ']', '^', '|'].contains c

/- The host of a URL of another scheme. -/
def plain : List Char → Except UrlError String
| '[' :: rest => bracketed rest
| cs =>
    if cs.any isBarred then .error .domainCharacter
    else .ok (String.ofList (Url.percentEncode Url.controlSet cs))

end Host

end StorageRouting
