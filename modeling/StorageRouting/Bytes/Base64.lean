import StorageRouting.Bytes.Basic

/-
  Base64 with padding, in its one canonical form.

  Key definitions include:
    * `Base64.encode`
    * `Base64.decode?`
-/

------------------------------------------------------------
-- Digits
------------------------------------------------------------

namespace StorageRouting

namespace Base64

/- The digit of a number below 64. -/
def digit (n : Nat) : Char :=
  if n < 26 then Char.ofNat (65 + n)
  else if n < 52 then Char.ofNat (97 + (n - 26))
  else if n < 62 then Char.ofNat (48 + (n - 52))
  else if n = 62 then '+'
  else '/'

/- The number of a digit. -/
def number? (c : Char) : Option Nat :=
  if 'A' ≤ c ∧ c ≤ 'Z' then some (c.toNat - 65)
  else if 'a' ≤ c ∧ c ≤ 'z' then some (c.toNat - 97 + 26)
  else if '0' ≤ c ∧ c ≤ '9' then some (c.toNat - 48 + 52)
  else if c = '+' then some 62
  else if c = '/' then some 63
  else none

end Base64

end StorageRouting

------------------------------------------------------------
-- Encoding and Decoding
------------------------------------------------------------

namespace StorageRouting

namespace Base64

/- Four digits for three bytes, padded at the end. -/
def encode : List UInt8 → List Char
| [] => []
| [a] =>
    let n := a.toNat
    [digit (n / 4), digit (n % 4 * 16), '=', '=']
| [a, b] =>
    let n := a.toNat * 256 + b.toNat
    [digit (n / 1024), digit (n / 16 % 64),
      digit (n % 16 * 4), '=']
| a :: b :: c :: rest =>
    let n := a.toNat * 65536 + b.toNat * 256 + c.toNat
    digit (n / 262144) :: digit (n / 4096 % 64) ::
      digit (n / 64 % 64) :: digit (n % 64) :: encode rest

/-
  The bytes of a text: the padding is complete and the bits
  that it leaves over are zero.
-/
def decode? : List Char → Option (List UInt8)
| [] => some []
| [a, b, '=', '='] => do
    let a ← number? a
    let b ← number? b
    if b % 16 = 0 then some [(a * 4 + b / 16).toUInt8] else none
| [a, b, c, '='] => do
    let a ← number? a
    let b ← number? b
    let c ← number? c
    if c % 4 = 0 then
      let n := a * 1024 + b * 16 + c / 4
      some [(n / 256).toUInt8, (n % 256).toUInt8]
    else none
| a :: b :: c :: d :: rest => do
    let a ← number? a
    let b ← number? b
    let c ← number? c
    let d ← number? d
    let n := a * 262144 + b * 4096 + c * 64 + d
    let more ← decode? rest
    return (n / 65536).toUInt8 :: (n / 256 % 256).toUInt8 ::
      (n % 256).toUInt8 :: more
| _ => none

end Base64

end StorageRouting
