/-
  Numbers that fit in so many binary digits.

  Key definitions include:
    * `Width.count`
    * `Width.isUnsigned`
    * `Width.isSigned`
-/

------------------------------------------------------------
-- Widths
------------------------------------------------------------

namespace StorageRouting

namespace Width

/- How many numbers have so many binary digits. -/
def count (bits : Nat) : Nat :=
  Nat.pow 2 bits

/- Whether a number without a sign has so many digits. -/
def isUnsigned
    (bits n : Nat) : Bool :=
  n < count bits

/- A number fits exactly if it is less than the count of those. -/
theorem isUnsigned_iff
    {bits n : Nat} :
    isUnsigned bits n = true ↔ n < count bits :=
  decide_eq_true_iff

/- Whether a number has so many digits, one for the sign. -/
def isSigned
    (bits : Nat)
    (n : Int) : Bool :=
  -(count (bits - 1) : Int) ≤ n && n < count (bits - 1)

end Width

end StorageRouting
