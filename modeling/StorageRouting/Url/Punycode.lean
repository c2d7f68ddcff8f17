import StorageRouting.Text.Blank

/-
  Punycode: labels beyond ASCII in the letters, digits and
  hyphens of host names.

  Key definitions include:
    * `Punycode.encode`
    * `Punycode.decode?`
    * `Punycode.label`
-/

------------------------------------------------------------
-- Variable-Length Numbers
------------------------------------------------------------

namespace StorageRouting

namespace Punycode

/- The character of a digit below 36. -/
def digit (n : Nat) : Char :=
  if n < 26 then Char.ofNat (97 + n) else Char.ofNat (22 + n)

/- The threshold at a position of a number under a bias. -/
def threshold (k bias : Nat) : Nat :=
  if k ≤ bias then 1
  else if bias + 26 ≤ k then 26
  else k - bias

/-
  The digits of a number, whose weights depend on the bias; a
  number has fewer than `fuel` of them.
-/
def number : Nat → Nat → Nat → Nat → List Char
| 0, _, _, _ => []
| fuel + 1, bias, k, q =>
    let t := threshold k bias
    if q < t then [digit q]
    else
      digit (t + (q - t) % (36 - t)) ::
        number fuel bias (k + 36) ((q - t) / (36 - t))

/- Reduce a delta until it is small, counting the steps. -/
def settle : Nat → Nat → Nat → Nat × Nat
| 0, k, delta => (k, delta)
| fuel + 1, k, delta =>
    if 455 < delta then settle fuel (k + 36) (delta / 35)
    else (k, delta)

/- The bias after a delta. -/
def adapt
    (delta count : Nat)
    (first : Bool) : Nat :=
  let delta := if first then delta / 700 else delta / 2
  let delta := delta + delta / count
  let (k, delta) := settle delta 0 delta
  k + 36 * delta / (delta + 38)

end Punycode

end StorageRouting

------------------------------------------------------------
-- Labels
------------------------------------------------------------

namespace StorageRouting

namespace Punycode

/- The state of an encoding between two characters. -/
structure State where
  delta : Nat
  bias : Nat
  handled : Nat
  output : List Char

/- The smallest code of a list that is not below a bound. -/
def nextCode?
    (bound : Nat)
    (codes : List Nat) : Option Nat :=
  (codes.filter (fun c => bound ≤ c)).min?

/- Pass over a label once for one code. -/
def pass
    (basic code : Nat)
    (codes : List Nat)
    (s : State) : State :=
  codes.foldl
    (fun s c =>
      if c < code then { s with delta := s.delta + 1 }
      else if c = code then
        { delta := 0
          bias := adapt s.delta (s.handled + 1)
            (s.handled == basic)
          handled := s.handled + 1
          output :=
            s.output ++ number (s.delta + 1) s.bias 36 s.delta }
      else s)
    s

/- Encode the codes of a label from a bound upwards. -/
def encodeFrom
    (basic : Nat)
    (codes : List Nat) :
    Nat → Nat → State → List Char
| 0, _, s => s.output
| fuel + 1, bound, s =>
    match nextCode? bound codes with
    | none => s.output
    | some code =>
        let more := (code - bound) * (s.handled + 1)
        let s :=
          pass basic code codes { s with delta := s.delta + more }
        encodeFrom basic codes fuel (code + 1)
          { s with delta := s.delta + 1 }

/- Encode a label: its ASCII part, and the places of the rest. -/
def encode (cs : List Char) : List Char :=
  let basic := cs.filter (fun c => c.toNat < 128)
  let start := if basic.isEmpty then [] else basic ++ ['-']
  encodeFrom basic.length (cs.map Char.toNat) (cs.length + 1)
    128 ⟨0, 72, basic.length, start⟩

/- The mark in front of an encoded label. -/
def mark : List Char :=
  ['x', 'n', '-', '-']

/- A label in ASCII; one that is ASCII stays as it is. -/
def label (cs : List Char) : List Char :=
  if cs.all (fun c => c.toNat < 128) then cs
  else mark ++ encode cs

end Punycode

end StorageRouting

------------------------------------------------------------
-- Decoding
------------------------------------------------------------

namespace StorageRouting

namespace Punycode

/- The digit below 36 of a character. -/
def digit? (c : Char) : Option Nat :=
  if c.isLower then some (c.toNat - 97)
  else if c.isDigit then some (c.toNat - 22)
  else none

/- Read a number under a bias, and the characters behind it. -/
def readNumber? (bias : Nat) :
    Nat → Nat → Nat → List Char → Option (Nat × List Char)
| _, _, _, [] => none
| k, weight, value, c :: cs =>
    match digit? c with
    | none => none
    | some d =>
        let value := value + d * weight
        let t := threshold k bias
        if d < t then some (value, cs)
        else readNumber? bias (k + 36) (weight * (36 - t)) value cs

/- How far the decoding of a label has come. -/
structure Progress where
  code : Nat
  place : Nat
  bias : Nat
  first : Bool
  output : List Nat

/- Put the next code at its place. -/
def advance
    (delta : Nat)
    (p : Progress) : Progress :=
  let count := p.output.length + 1
  let place := p.place + delta
  let code := p.code + place / count
  { code
    place := place % count + 1
    bias := adapt delta count p.first
    first := false
    output :=
      p.output.take (place % count) ++
        code :: p.output.drop (place % count) }

/- Decode numbers, fewer than `fuel` of them. -/
def decodeFrom? :
    Nat → Progress → List Char → Option (List Nat)
| 0, _, _ => none
| _ + 1, p, [] => some p.output
| fuel + 1, p, c :: cs =>
    match readNumber? p.bias 36 1 0 (c :: cs) with
    | none => none
    | some (delta, rest) => decodeFrom? fuel (advance delta p) rest

/- The character of a code. -/
def char? (n : Nat) : Option Char :=
  if h : n.isValidChar then some (Char.ofNatAux n h) else none

/- Decode what stands behind the mark of a label. -/
def decode? (cs : List Char) : Option (List Char) :=
  let back := cs.reverse
  let (basic, rest) :=
    match Text.splitFirst (· == '-') back with
    | some (rest, basic) => (basic.reverse, rest.reverse)
    | none => ([], cs)
  let start : Progress :=
    { code := 128, place := 0, bias := 72, first := true
      output := basic.map Char.toNat }
  (decodeFrom? (rest.length + 1) start rest).bind (·.mapM char?)

/-
  The label that an encoded one stands for, which must not be
  ASCII and must be encoded in just that way.
-/
def plain? (cs : List Char) : Option (List Char) :=
  match decode? cs with
  | none => none
  | some label =>
      if label.all (fun c => c.toNat < 128) then none
      else if encode label = cs then some label
      else none

end Punycode

end StorageRouting
