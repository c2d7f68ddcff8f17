import StorageRouting.Number.Binary64
import StorageRouting.Text.Blank

/-
  Sizes for people: the largest binary unit that keeps the
  number at one or above.

  Key definitions include:
    * `Size.text`
-/

------------------------------------------------------------
-- Units
------------------------------------------------------------

namespace StorageRouting

namespace Size

/- The units in steps of 1024. -/
def units : List String :=
  ["B", "KiB", "MiB", "GiB", "TiB", "PiB", "EiB", "ZiB", "YiB"]

/- The number of times that 1024 divides into a number. -/
def steps : Nat → Nat → Nat
| 0, _ => 0
| fuel + 1, n => if n < 1024 then 0 else steps fuel (n / 1024) + 1

/-
  The text of a size.  The number is first rounded to 53
  binary digits.  Whole numbers of units have no decimals,
  others two, a half going to the even digit.
-/
def text (bytes : Nat) : String :=
  let n :=
    match Binary64.ofNat bytes with
    | .finite _ m e =>
        if 0 ≤ e then m * Nat.pow 2 e.toNat
        else m / Nat.pow 2 (-e).toNat
    | _ => bytes
  let k := steps 8 n
  let unit := Nat.pow 1024 k
  let name := (units[k]?).getD "B"
  if n % unit = 0 then toString (n / unit) ++ " " ++ name
  else
    let hundredths := Binary64.divRound (n * 100) unit
    toString (hundredths / 100) ++ "." ++
      Text.padZeros 2 (hundredths % 100) ++ " " ++ name

end Size

end StorageRouting
