import StorageRouting.Bytes.Basic

/-
  The hash SHA-256, and codes of authenticity that are made
  with it.

  Key definitions include:
    * `Sha256.hash`
    * `Sha256.authenticate`
-/

------------------------------------------------------------
-- Words
------------------------------------------------------------

namespace StorageRouting

namespace Sha256

/- Rotate a word to the right. -/
def rotate (x n : UInt32) : UInt32 :=
  (x >>> n) ||| (x <<< (32 - n))

/- The word of four bytes, the highest first. -/
def wordOf : List UInt8 → UInt32
| bytes => bytes.foldl (fun w b => w <<< 8 ||| b.toUInt32) 0

/- The words of bytes, four bytes each. -/
def wordsOf : List UInt8 → List UInt32
| a :: b :: c :: d :: rest => wordOf [a, b, c, d] :: wordsOf rest
| _ => []

/- The four bytes of a word, the highest first. -/
def bytesOfWord (w : UInt32) : List UInt8 :=
  [(w >>> 24).toUInt8, (w >>> 16).toUInt8, (w >>> 8).toUInt8,
    w.toUInt8]

/- The constants of the rounds. -/
def constants : List UInt32 :=
  [0x428a2f98, 0x71374491, 0xb5c0fbcf, 0xe9b5dba5, 0x3956c25b,
    0x59f111f1, 0x923f82a4, 0xab1c5ed5, 0xd807aa98, 0x12835b01,
    0x243185be, 0x550c7dc3, 0x72be5d74, 0x80deb1fe, 0x9bdc06a7,
    0xc19bf174, 0xe49b69c1, 0xefbe4786, 0x0fc19dc6, 0x240ca1cc,
    0x2de92c6f, 0x4a7484aa, 0x5cb0a9dc, 0x76f988da, 0x983e5152,
    0xa831c66d, 0xb00327c8, 0xbf597fc7, 0xc6e00bf3, 0xd5a79147,
    0x06ca6351, 0x14292967, 0x27b70a85, 0x2e1b2138, 0x4d2c6dfc,
    0x53380d13, 0x650a7354, 0x766a0abb, 0x81c2c92e, 0x92722c85,
    0xa2bfe8a1, 0xa81a664b, 0xc24b8b70, 0xc76c51a3, 0xd192e819,
    0xd6990624, 0xf40e3585, 0x106aa070, 0x19a4c116, 0x1e376c08,
    0x2748774c, 0x34b0bcb5, 0x391c0cb3, 0x4ed8aa4a, 0x5b9cca4f,
    0x682e6ff3, 0x748f82ee, 0x78a5636f, 0x84c87814, 0x8cc70208,
    0x90befffa, 0xa4506ceb, 0xbef9a3f7, 0xc67178f2]

end Sha256

end StorageRouting

------------------------------------------------------------
-- Blocks
------------------------------------------------------------

namespace StorageRouting

namespace Sha256

/- The eight words of the state. -/
structure State where
  a : UInt32
  b : UInt32
  c : UInt32
  d : UInt32
  e : UInt32
  f : UInt32
  g : UInt32
  h : UInt32

/- The state before the first block. -/
def start : State :=
  { a := 0x6a09e667, b := 0xbb67ae85, c := 0x3c6ef372
    d := 0xa54ff53a, e := 0x510e527f, f := 0x9b05688c
    g := 0x1f83d9ab, h := 0x5be0cd19 }

/- One round with a constant and a word of the schedule. -/
def round
    (s : State)
    (k w : UInt32) : State :=
  let mixE := rotate s.e 6 ^^^ rotate s.e 11 ^^^ rotate s.e 25
  let choice := (s.e &&& s.f) ^^^ (~~~s.e &&& s.g)
  let t := s.h + mixE + choice + k + w
  let mixA := rotate s.a 2 ^^^ rotate s.a 13 ^^^ rotate s.a 22
  let majority :=
    (s.a &&& s.b) ^^^ (s.a &&& s.c) ^^^ (s.b &&& s.c)
  { a := t + mixA + majority, b := s.a, c := s.b, d := s.c
    e := s.d + t, f := s.e, g := s.f, h := s.g }

/- The word after the last sixteen of the schedule. -/
def nextWord (last : List UInt32) : UInt32 :=
  let x := (last[1]?).getD 0
  let y := (last[14]?).getD 0
  let mixX := rotate x 7 ^^^ rotate x 18 ^^^ (x >>> 3)
  let mixY := rotate y 17 ^^^ rotate y 19 ^^^ (y >>> 10)
  (last[0]?).getD 0 + mixX + (last[9]?).getD 0 + mixY

/- Carry out the rounds, with the words of the schedule. -/
def rounds : List UInt32 → List UInt32 → State → State
| [], _, s => s
| k :: ks, last, s =>
    rounds ks (last.drop 1 ++ [nextWord last])
      (round s k ((last[0]?).getD 0))

/- Take one block of sixteen words in. -/
def absorb
    (s : State)
    (block : List UInt32) : State :=
  let t := rounds constants block s
  ⟨s.a + t.a, s.b + t.b, s.c + t.c, s.d + t.d, s.e + t.e,
    s.f + t.f, s.g + t.g, s.h + t.h⟩

/- Take all blocks in, at most so many. -/
def absorbAll : Nat → List UInt32 → State → State
| 0, _, s => s
| n + 1, words, s =>
    absorbAll n (words.drop 16) (absorb s (words.take 16))

end Sha256

end StorageRouting

------------------------------------------------------------
-- The Hash
------------------------------------------------------------

namespace StorageRouting

namespace Sha256

/- A message filled up to whole blocks, with its length. -/
def padded (bytes : List UInt8) : List UInt8 :=
  let bits := UInt64.ofNat (bytes.length * 8)
  let zeros : List UInt8 :=
    List.replicate ((119 - bytes.length % 64) % 64) 0
  bytes ++ ((0x80 : UInt8) :: zeros) ++
    bytesOfWord (bits >>> 32).toUInt32 ++
    bytesOfWord bits.toUInt32

/- The hash of a message: thirty-two bytes. -/
def hash (bytes : List UInt8) : List UInt8 :=
  let filled := padded bytes
  let s := absorbAll (filled.length / 64) (wordsOf filled) start
  [s.a, s.b, s.c, s.d, s.e, s.f, s.g, s.h].flatMap bytesOfWord

/- A key of the length of a block. -/
def blockKey (key : List UInt8) : List UInt8 :=
  let key := if 64 < key.length then hash key else key
  key ++ List.replicate (64 - key.length) (0 : UInt8)

/- The code that shows who wrote a message, made with a key. -/
def authenticate (key message : List UInt8) : List UInt8 :=
  let key := blockKey key
  hash
    (key.map (· ^^^ 0x5c) ++
      hash (key.map (· ^^^ 0x36) ++ message))

end Sha256

end StorageRouting
