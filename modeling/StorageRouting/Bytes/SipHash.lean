import StorageRouting.Bytes.Basic

/-
  The keyed hash SipHash with one round for each word and
  three rounds at the end.

  Key definitions include:
    * `SipHash.State`
    * `SipHash.hash`
    * `SipHash.tag`
-/

------------------------------------------------------------
-- Rounds
------------------------------------------------------------

namespace StorageRouting

namespace SipHash

/- The four words of the state. -/
structure State where
  v0 : UInt64
  v1 : UInt64
  v2 : UInt64
  v3 : UInt64

/- The state of a key of zeros. -/
def start : State :=
  { v0 := 0x736f6d6570736575
    v1 := 0x646f72616e646f6d
    v2 := 0x6c7967656e657261
    v3 := 0x7465646279746573 }

/- Rotate a word to the left. -/
def rotate (x n : UInt64) : UInt64 :=
  (x <<< n) ||| (x >>> (64 - n))

/- One round of mixing. -/
def round (s : State) : State :=
  let v0 := s.v0 + s.v1
  let v1 := rotate s.v1 13 ^^^ v0
  let v0 := rotate v0 32
  let v2 := s.v2 + s.v3
  let v3 := rotate s.v3 16 ^^^ v2
  let v0 := v0 + v3
  let v3 := rotate v3 21 ^^^ v0
  let v2 := v2 + v1
  let v1 := rotate v1 17 ^^^ v2
  let v2 := rotate v2 32
  ⟨v0, v1, v2, v3⟩

/- Take one word in. -/
def absorb
    (s : State)
    (m : UInt64) : State :=
  let s := round { s with v3 := s.v3 ^^^ m }
  { s with v0 := s.v0 ^^^ m }

end SipHash

end StorageRouting

------------------------------------------------------------
-- Messages
------------------------------------------------------------

namespace StorageRouting

namespace SipHash

/- At most so many bytes from a place on, the lowest first. -/
def wordAt
    (b : Bytes)
    (i : Nat) : Nat → UInt64
| 0 => 0
| n + 1 =>
    ((b[i]?).getD 0).toUInt64 ||| (wordAt b (i + 1) n <<< 8)

/- Take so many whole words in, from a place on. -/
def absorbWords
    (b : Bytes) :
    Nat → Nat → State → State
| 0, _, s => s
| n + 1, i, s =>
    absorbWords b n (i + 8) (absorb s (wordAt b i 8))

/-
  The hash of the length of a byte string, as eight bytes, and
  of its content.
-/
def hash (b : Bytes) : UInt64 :=
  let words := b.size / 8
  let s := absorb start b.size.toUInt64
  let s := absorbWords b words 0 s
  let last :=
    wordAt b (8 * words) (b.size % 8) |||
      ((b.size + 8).toUInt64 <<< 56)
  let s := absorb s last
  let s := round (round (round { s with v2 := s.v2 ^^^ 0xff }))
  s.v0 ^^^ s.v1 ^^^ s.v2 ^^^ s.v3

/- Sixteen hexadecimal digits of a number, from the last on. -/
def hexFrom : Nat → Nat → List Char
| 0, _ => []
| count + 1, n => hexFrom count (n / 16) ++ [Hex.digit (n % 16)]

/- The tag of a content: its hash in hexadecimal digits. -/
def tag (b : Bytes) : String :=
  String.ofList (hexFrom 16 (hash b).toNat)

end SipHash

end StorageRouting
