import StorageRouting.Number.Decimal
import StorageRouting.Number.Width
import StorageRouting.Text.Blank

/-
  The time for which something can be used, in seconds.

  Key definitions include:
    * `Expiration.unitSeconds?`
    * `Expiration.parse`
    * `Expiration.text`
-/

------------------------------------------------------------
-- Reading
------------------------------------------------------------

namespace StorageRouting

namespace Expiration

/- The longest time: seven days. -/
def limit : Nat :=
  7 * 86400

/- The seconds of a unit. -/
def unitSeconds? : Char → Option Nat
| 's' => some 1
| 'm' => some 60
| 'h' => some 3600
| 'd' => some 86400
| 'w' => some (7 * 86400)
| _ => none

/-
  Cut the letter of the unit off, in lower case; seconds need
  none.
-/
def splitUnit (cs : List Char) : List Char × Char :=
  match cs.getLast? with
  | some c =>
      if c.isAlpha then (cs.dropLast, c.toLower) else (cs, 's')
  | none => (cs, 's')

/- Seconds within the bounds. -/
def bounded
    (s : String)
    (seconds : Nat) : Except String Nat :=
  if !Width.isUnsigned 64 seconds then
    .error ("Expiration too large: " ++ s)
  else if seconds = 0 then
    .error "Expiration must be positive"
  else if limit < seconds then
    .error ("Expiration " ++ s ++ " exceeds the maximum of 7d")
  else .ok seconds

/-
  Read a time: a number and the letter of a unit, with blanks
  around.
-/
def parse (s : String) : Except String Nat :=
  let s := Text.trim s
  if s.isEmpty then .error "Expiration cannot be empty"
  else
    let (digits, unit) := splitUnit s.toList
    match Decimal.unsigned64? digits, unitSeconds? unit with
    | none, _ => .error ("Invalid expiration: " ++ s)
    | some _, none =>
        .error
          ("Unknown expiration unit '" ++ String.singleton unit ++
            "' in " ++ s)
    | some n, some seconds => bounded s (n * seconds)

end Expiration

end StorageRouting

------------------------------------------------------------
-- Printing
------------------------------------------------------------

namespace StorageRouting

namespace Expiration

/- A time in its two largest units. -/
def text (seconds : Nat) : String :=
  let days := seconds / 86400
  let hours := seconds % 86400 / 3600
  let minutes := seconds % 3600 / 60
  match days, hours, minutes with
  | 0, 0, 0 => toString seconds ++ " second(s)"
  | 0, 0, m => toString m ++ " minute(s)"
  | 0, h, 0 => toString h ++ " hour(s)"
  | 0, h, m => toString h ++ "h " ++ toString m ++ "m"
  | d, 0, _ => toString d ++ " day(s)"
  | d, h, _ => toString d ++ "d " ++ toString h ++ "h"

end Expiration

end StorageRouting
