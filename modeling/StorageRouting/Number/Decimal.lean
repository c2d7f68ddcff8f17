import StorageRouting.Number.Width

/-
  Reading decimal numbers of so many bits.

  Key definitions include:
    * `Decimal.value`
    * `Decimal.unsigned64?`
    * `Decimal.signed?`
-/

------------------------------------------------------------
-- Unsigned Numbers
------------------------------------------------------------

namespace StorageRouting

namespace Decimal

/- The number that a run of digits denotes. -/
def value (cs : List Char) : Nat :=
  cs.foldl (fun n c => n * 10 + (c.toNat - 48)) 0

/- A number of one or more digits that fits in 64 bits. -/
def digits64? (cs : List Char) : Option Nat :=
  if cs.isEmpty then none
  else if cs.all Char.isDigit then
    if Width.isUnsigned 64 (value cs) then some (value cs)
    else none
  else none

/- A number that fits in 64 bits, with an optional plus sign. -/
def unsigned64? : List Char → Option Nat
| '+' :: cs => digits64? cs
| cs => digits64? cs

end Decimal

end StorageRouting

------------------------------------------------------------
-- Signed Numbers
------------------------------------------------------------

namespace StorageRouting

namespace Decimal

/- The number that one or more digits denote. -/
def digits? (cs : List Char) : Option Nat :=
  if cs.isEmpty then none
  else if cs.all Char.isDigit then some (value cs)
  else none

/- A number with an optional sign that fits in so many bits. -/
def signed?
    (bits : Nat)
    (cs : List Char) : Option Int := do
  let n : Int ←
    match cs with
    | '-' :: cs => (digits? cs).map (fun n => -(n : Int))
    | '+' :: cs => (digits? cs).map Int.ofNat
    | cs => (digits? cs).map Int.ofNat
  if Width.isSigned bits n then some n else none

end Decimal

end StorageRouting
