/-
  Hexadecimal digits.

  Key definitions include:
    * `Hex.digit`
    * `Hex.value?`
    * `Hex.upperDigit`
    * `Hex.digits`
-/

------------------------------------------------------------
-- Digits
------------------------------------------------------------

namespace StorageRouting

namespace Hex

/- The lower-case hexadecimal digit of a number below 16. -/
def digit (n : Nat) : Char :=
  if n < 10 then Char.ofNat (48 + n)
  else Char.ofNat (87 + n)

/- The upper-case hexadecimal digit of a number below 16. -/
def upperDigit (n : Nat) : Char :=
  if n < 10 then Char.ofNat (48 + n)
  else Char.ofNat (55 + n)

/- The number of a hexadecimal digit of either case. -/
def value? (c : Char) : Option Nat :=
  if '0' ≤ c ∧ c ≤ '9' then some (c.toNat - 48)
  else if 'a' ≤ c ∧ c ≤ 'f' then some (c.toNat - 87)
  else if 'A' ≤ c ∧ c ≤ 'F' then some (c.toNat - 55)
  else none

/- The digits of a number without leading zeros, at most `fuel`. -/
def digits : Nat → Nat → List Char
| 0, _ => []
| fuel + 1, n =>
    if n < 16 then [digit n]
    else digits fuel (n / 16) ++ [digit (n % 16)]

/- The number of a run of hexadecimal digits. -/
def number? (cs : List Char) : Option Nat :=
  cs.foldl
    (fun acc c =>
      match acc, value? c with
      | some n, some d => some (n * 16 + d)
      | _, _ => none)
    (some 0)

end Hex

end StorageRouting
