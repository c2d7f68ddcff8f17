/-
  Numbers of the binary64 format, held exactly.  A finite
  number is a sign and `significand * 2 ^ exponent`.

  Key definitions include:
    * `Binary64`
    * `Binary64.ofDecimal?`
    * `Binary64.ofDigits?`
    * `Binary64.shortest`
    * `Binary64.text`
-/

------------------------------------------------------------
-- The Type
------------------------------------------------------------

namespace StorageRouting

/-
  A binary64 number: finite, infinite, or not a number.
-/
inductive Binary64 where
| finite
    (negative : Bool)
    (significand : Nat)
    (exponent : Int) : Binary64
| infinite (negative : Bool) : Binary64
| notANumber : Binary64
deriving DecidableEq, Repr

namespace Binary64

/- The zero of the given sign. -/
def zero (negative : Bool) : Binary64 :=
  .finite negative 0 0

end Binary64

end StorageRouting

------------------------------------------------------------
-- Rounding
------------------------------------------------------------

namespace StorageRouting

namespace Binary64

/- The number of binary digits of a natural number. -/
def bitLength (n : Nat) : Nat :=
  if n = 0 then 0 else n.log2 + 1

/- Divide and round to the nearest, a half to the even side. -/
def divRound
    (num den : Nat) : Nat :=
  let q := num / den
  let twice := 2 * (num % den)
  if twice < den then q
  else if den < twice then q + 1
  else if q % 2 = 0 then q
  else q + 1

/- `num / den / 2 ^ e` as one fraction. -/
def scaleFraction
    (num den : Nat)
    (e : Int) : Nat × Nat :=
  if 0 ≤ e then (num, den * Nat.pow 2 e.toNat)
  else (num * Nat.pow 2 (-e).toNat, den)

/-
  The binary exponent of the last kept digit of a fraction:
  53 digits are kept, fewer below the normal range.
-/
def lastPlace
    (num den : Nat) : Int :=
  let guess : Int :=
    (bitLength num : Int) - (bitLength den : Int) - 53
  let (a, b) := scaleFraction num den guess
  let e := if Nat.pow 2 53 * b ≤ a then guess + 1 else guess
  max e (-1074)

/- Round a fraction to binary64; `none` beyond the range. -/
def ofFraction?
    (negative : Bool)
    (num den : Nat) : Option Binary64 :=
  if num = 0 then some (zero negative)
  else
    let e := lastPlace num den
    let (a, b) := scaleFraction num den e
    let m := divRound a b
    let (m, e) :=
      if m = Nat.pow 2 53 then (Nat.pow 2 52, e + 1) else (m, e)
    if m = 0 then some (zero negative)
    else if 971 < e then none
    else some (.finite negative m e)

/-
  Round `digits * 10 ^ power` to binary64; `none` beyond the
  range.
-/
def ofDecimal?
    (negative : Bool)
    (digits : Nat)
    (power : Int) : Option Binary64 :=
  if digits = 0 then some (zero negative)
  else
    let size : Int := (toString digits).length + power
    if 400 < size then none
    else if size < -400 then some (zero negative)
    else if 0 ≤ power then
      ofFraction? negative (digits * Nat.pow 10 power.toNat) 1
    else
      ofFraction? negative digits (Nat.pow 10 (-power).toNat)

/- Round a natural number to binary64. -/
def ofNat (n : Nat) : Binary64 :=
  (ofFraction? false n 1).getD (.infinite false)

/- The same number with the given sign. -/
def withSign
    (negative : Bool) : Binary64 → Binary64
| .finite _ m e => .finite negative m e
| .infinite _ => .infinite negative
| .notANumber => .notANumber

end Binary64

end StorageRouting

------------------------------------------------------------
-- Quick Rounding of Decimals
------------------------------------------------------------

namespace StorageRouting

namespace Binary64

/- Round `num / den * 2 ^ e`. -/
def ofScaled?
    (num den : Nat)
    (e : Int) : Option Binary64 :=
  if 0 ≤ e then ofFraction? false (num * Nat.pow 2 e.toNat) den
  else ofFraction? false num (den * Nat.pow 2 (-e).toNat)

/- Multiply by the double nearest to a power of ten. -/
def timesPower?
    (d : Binary64)
    (power : Nat) : Option Binary64 :=
  match d, ofDecimal? false 1 power with
  | .finite _ m e, some (.finite _ n f) =>
      ofScaled? (m * n) 1 (e + f)
  | _, _ => none

/- Divide by the double nearest to a power of ten. -/
def overPower?
    (d : Binary64)
    (power : Nat) : Option Binary64 :=
  match d, ofDecimal? false 1 power with
  | .finite _ m e, some (.finite _ n f) =>
      ofScaled? m n (e - f)
  | _, _ => none

/- Divide by a large power of ten in steps of 308. -/
def overSteps? :
    Nat → Binary64 → Nat → Option Binary64
| 0, d, power => d.overPower? power
| fuel + 1, d, power =>
    if power ≤ 308 then d.overPower? power
    else if d = zero false then some d
    else
      match d.overPower? 308 with
      | some d => overSteps? fuel d (power - 308)
      | none => none

/-
  The double of `digits * 10 ^ power` by the quick method: the
  digits are rounded, and the product or quotient with the
  rounded power of ten is rounded again.  `none` beyond the
  range.
-/
def ofDigits?
    (negative : Bool)
    (digits : Nat)
    (power : Int) : Option Binary64 :=
  let d := ofNat digits
  let r :=
    if digits = 0 then some (zero false)
    else if 308 < power then none
    else if 0 ≤ power then d.timesPower? power.toNat
    else if power < -1200 then some (zero false)
    else overSteps? 4 d (-power).toNat
  r.map (withSign negative)

end Binary64

end StorageRouting

------------------------------------------------------------
-- Shortest Digits
------------------------------------------------------------

namespace StorageRouting

namespace Binary64

/-
  The numbers that round to `m * 2 ^ e`, as a closed or open
  interval of quarters: `low` and `high` over the scale
  `2 ^ (e - 2)`.
-/
structure Interval where
  low : Nat
  high : Nat
  closed : Bool

/- The interval of numbers that round to a finite number. -/
def interval
    (m : Nat)
    (e : Int) : Interval :=
  let below := if m = Nat.pow 2 52 ∧ -1074 < e then 1 else 2
  { low := 4 * m - below
    high := 4 * m + 2
    closed := m % 2 == 0 }

/-
  Compare `c * 10 ^ k` with `q * 2 ^ e`: both are brought to
  natural numbers.
-/
def crossScale
    (c : Nat)
    (k : Int)
    (q : Nat)
    (e : Int) : Nat × Nat :=
  let c := if 0 ≤ k then c * Nat.pow 10 k.toNat else c
  let q := if 0 ≤ k then q else q * Nat.pow 10 (-k).toNat
  if 0 ≤ e then (c, q * Nat.pow 2 e.toNat)
  else (c * Nat.pow 2 (-e).toNat, q)

/- Whether `c * 10 ^ k` lies in an interval. -/
def Interval.has
    (i : Interval)
    (e : Int)
    (c : Nat)
    (k : Int) : Bool :=
  let (a, lo) := crossScale c k i.low (e - 2)
  let (b, hi) := crossScale c k i.high (e - 2)
  if i.closed then lo ≤ a && b ≤ hi
  else lo < a && b < hi

/- The floor of `m * 2 ^ e / 10 ^ k`. -/
def floorAt
    (m : Nat)
    (e k : Int) : Nat :=
  let (a, b) := crossScale 1 k m e
  b / a

/-
  The digits of a grid point that rounds to `m * 2 ^ e`, if
  one of the two neighbours on the grid of step `10 ^ k` does;
  the nearer of two, the even one of two at equal distance.
-/
def onGrid?
    (m : Nat)
    (e k : Int) : Option Nat :=
  let i := interval m e
  let c := floorAt m e k
  let lower := c ≠ 0 ∧ i.has e c k
  let upper := i.has e (c + 1) k
  if lower ∧ upper then
    let (mid, twice) := crossScale (2 * c + 1) k (2 * m) e
    if twice < mid then some c
    else if mid < twice then some (c + 1)
    else if c % 2 = 0 then some c
    else some (c + 1)
  else if lower then some c
  else if upper then some (c + 1)
  else none

/-
  The place of the leading decimal digit of `m * 2 ^ e`: the
  `p` with `10 ^ p ≤ m * 2 ^ e < 10 ^ (p + 1)`, found by
  counting the digits of the whole part or of a scaled copy.
-/
def leadingPlace
    (m : Nat)
    (e : Int) : Int :=
  let shifted := floorAt m e (-400)
  ((toString shifted).length : Int) - 401

/- Try the grids of `n` digits and more, at most `fuel`. -/
def shortestFrom
    (m : Nat)
    (e place : Int) :
    Nat → Nat → Nat × Int
| 0, n => (floorAt m e (place - n), place - n)
| fuel + 1, n =>
    match onGrid? m e (place - n) with
    | some c => (c, place - n)
    | none => shortestFrom m e place fuel (n + 1)

/-
  The fewest decimal digits `c` and the power `k` such that
  `c * 10 ^ k` rounds to `m * 2 ^ e`, for `m` not zero.
-/
def shortest
    (m : Nat)
    (e : Int) : Nat × Int :=
  shortestFrom m e (leadingPlace m e) 17 0

end Binary64

end StorageRouting

------------------------------------------------------------
-- Text of a Number
------------------------------------------------------------

namespace StorageRouting

namespace Binary64

/- Drop the zeros at the end of a number, counting them. -/
def dropZeros : Nat → Nat → Int → Nat × Int
| 0, c, k => (c, k)
| fuel + 1, c, k =>
    if c % 10 = 0 ∧ c ≠ 0 then
      dropZeros fuel (c / 10) (k + 1)
    else (c, k)

/- Digits with a point after the first `n` of them. -/
def withPoint
    (digits : String)
    (n : Nat) : String :=
  let whole := digits.toList.take n
  let part := digits.toList.drop n
  String.ofList whole ++ "." ++ String.ofList part

/-
  The text of `digits * 10 ^ k`: positional from 1e-5 up to
  below 1e16, with a power of ten and its sign outside.
-/
def decimalText
    (c : Nat)
    (k : Int) : String :=
  let digits := toString c
  let place : Int := (digits.length : Int) + k
  if 0 ≤ k ∧ place ≤ 16 then
    digits ++ String.ofList (List.replicate k.toNat '0') ++ ".0"
  else if 0 < place ∧ place ≤ 16 then
    withPoint digits place.toNat
  else if -5 < place ∧ place ≤ 0 then
    "0." ++ String.ofList (List.replicate (-place).toNat '0')
      ++ digits
  else
    let power := place - 1
    let mantissa :=
      if digits.length = 1 then digits else withPoint digits 1
    let sign := if power < 0 then "e-" else "e+"
    mantissa ++ sign ++ toString power.natAbs

/- The shortest text that reads back as the number. -/
def text : Binary64 → String
| .finite negative m e =>
    let body :=
      if m = 0 then "0.0"
      else
        let (c, k) := shortest m e
        let (c, k) := dropZeros 20 c k
        decimalText c k
    if negative then "-" ++ body else body
| .infinite negative => if negative then "-inf" else "inf"
| .notANumber => "nan"

end Binary64

end StorageRouting
