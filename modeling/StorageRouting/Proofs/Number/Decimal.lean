import StorageRouting.Number.Decimal

/-
  Which texts are read as decimal numbers of 64 bits, and that
  the digits of a number denote it.

  Key definitions include:
    * `Decimal.Denotes`
    * `Decimal.DenotesUnsigned`

  Main statements:
    * `Decimal.digits64?_eq_some_iff`
    * `Decimal.unsigned64?_eq_some_iff`
    * `Decimal.denotes_toDigits`
    * `Decimal.DenotesUnsigned.exists_last`
-/

------------------------------------------------------------
-- Digits
------------------------------------------------------------

namespace StorageRouting

namespace Decimal

/- One or more digits denote a number that fits in 64 bits. -/
structure Denotes
    (cs : List Char)
    (n : Nat) : Prop where
  nonempty : cs ≠ []
  digits : ∀ c ∈ cs, c.isDigit = true
  value_eq : value cs = n
  bound : n < Width.count 64

/- The same for digits that may have a plus sign in front. -/
def DenotesUnsigned
    (cs : List Char)
    (n : Nat) : Prop :=
  Denotes cs n ∨ ∃ digits, cs = '+' :: digits ∧ Denotes digits n

/- The texts that are read as digits. -/
theorem digits64?_eq_some_iff
    {cs : List Char}
    {n : Nat} :
    digits64? cs = some n ↔ Denotes cs n := by
  unfold digits64?
  constructor
  · intro h
    split at h
    · cases h
    · rename_i hFull
      split at h
      · rename_i hDigits
        split at h
        · rename_i hBound
          cases h
          exact
            ⟨by simpa using hFull, List.all_eq_true.mp hDigits, rfl,
              Width.isUnsigned_iff.mp hBound⟩
        · cases h
      · cases h
  · rintro ⟨hFull, hDigits, rfl, hBound⟩
    rw [if_neg (by simpa using hFull),
      if_pos (List.all_eq_true.mpr hDigits),
      if_pos (Width.isUnsigned_iff.mpr hBound)]

/- A plus sign is no digit. -/
theorem not_denotes_plus
    {cs : List Char}
    {n : Nat} : ¬ Denotes ('+' :: cs) n :=
  fun h => absurd (h.digits '+' List.mem_cons_self) (by decide)

/- The texts that are read as numbers without a minus sign. -/
theorem unsigned64?_eq_some_iff
    {cs : List Char}
    {n : Nat} :
    unsigned64? cs = some n ↔ DenotesUnsigned cs n := by
  unfold unsigned64? DenotesUnsigned
  split
  · rename_i digits
    rw [digits64?_eq_some_iff]
    constructor
    · exact fun h => .inr ⟨digits, rfl, h⟩
    · rintro (h | ⟨_, hSame, h⟩)
      · exact absurd h not_denotes_plus
      · cases hSame
        exact h
  · rename_i hNoSign
    rw [digits64?_eq_some_iff]
    constructor
    · exact .inl
    · rintro (h | ⟨digits, rfl, _⟩)
      · exact h
      · exact absurd rfl (hNoSign digits)

end Decimal

end StorageRouting

------------------------------------------------------------
-- Printed Numbers
------------------------------------------------------------

namespace StorageRouting

namespace Decimal

/- Digits denote what they are read as to the base ten. -/
theorem value_eq_ofDigitChars (cs : List Char) :
    value cs = Nat.ofDigitChars 10 cs 0 := by
  unfold value Nat.ofDigitChars
  congr 1
  funext n c
  rw [Nat.mul_comm]
  rfl

theorem value_toDigits (n : Nat) :
    value (Nat.toDigits 10 n) = n := by
  rw [value_eq_ofDigitChars]
  exact Nat.ofDigitChars_toDigits (by decide) (by decide)

/- The digits of a number denote it. -/
theorem denotes_toDigits
    {n : Nat}
    (h : n < Width.count 64) : Denotes (Nat.toDigits 10 n) n where
  nonempty := Nat.toDigits_ne_nil
  digits _ hc :=
    Nat.isDigit_of_mem_toDigits (by decide) (by decide) hc
  value_eq := value_toDigits n
  bound := h

end Decimal

end StorageRouting

------------------------------------------------------------
-- Characters of Numbers
------------------------------------------------------------

namespace StorageRouting

namespace Decimal

variable {c : Char}

/- The range of digits. -/
theorem toNat_of_isDigit
    (h : c.isDigit = true) : 48 ≤ c.toNat ∧ c.toNat ≤ 57 := by
  have hRange :
      (decide ('0'.val ≤ c.val) && decide (c.val ≤ '9'.val)) =
        true :=
    h
  rw [Bool.and_eq_true, decide_eq_true_iff, decide_eq_true_iff]
    at hRange
  exact
    ⟨UInt32.le_iff_toNat_le.mp hRange.1,
      UInt32.le_iff_toNat_le.mp hRange.2⟩

/- No digit is a letter. -/
theorem isAlpha_of_isDigit
    (h : c.isDigit = true) : c.isAlpha = false := by
  have hRange := toNat_of_isDigit h
  have hAlpha :
      c.isAlpha =
        (decide ('A'.val ≤ c.val ∧ c.val ≤ 'Z'.val) ||
          ('a'.val ≤ c.val && c.val ≤ 'z'.val)) :=
    rfl
  have hNumber : c.toNat = c.val.toNat := rfl
  have hUpper : 'A'.val.toNat = 65 := rfl
  have hLower : 'a'.val.toNat = 97 := rfl
  rw [hAlpha, Bool.or_eq_false_iff, Bool.and_eq_false_iff]
  simp only [decide_eq_false_iff_not, UInt32.le_iff_toNat_le]
  omega

variable {number : List Char} {n : Nat}

/- A number ends with a digit. -/
theorem DenotesUnsigned.exists_last
    (h : DenotesUnsigned number n) :
    ∃ front last,
      number = front ++ [last] ∧ last.isDigit = true := by
  have hDigits :
      ∀ digits, Denotes digits n →
        ∃ front last,
          digits = front ++ [last] ∧ last.isDigit = true := by
    intro digits hDenotes
    rcases List.eq_nil_or_concat digits with
      rfl | ⟨front, last, rfl⟩
    · exact absurd rfl hDenotes.nonempty
    · exact
        ⟨front, last, List.concat_eq_append,
          hDenotes.digits last (by simp)⟩
  rcases h with h | ⟨digits, rfl, h⟩
  · exact hDigits number h
  · rcases hDigits digits h with ⟨front, last, rfl, hLast⟩
    exact ⟨'+' :: front, last, rfl, hLast⟩

/- All characters of a number are visible. -/
theorem DenotesUnsigned.visible
    (h : DenotesUnsigned number n) :
    ∀ c ∈ number, 33 ≤ c.toNat ∧ c.toNat ≤ 126 := by
  have hDigits :
      ∀ digits, Denotes digits n →
        ∀ c ∈ digits, 33 ≤ c.toNat ∧ c.toNat ≤ 126 := by
    intro digits hDenotes c hc
    have hRange := toNat_of_isDigit (hDenotes.digits c hc)
    omega
  rcases h with h | ⟨digits, rfl, h⟩
  · exact hDigits number h
  · intro c hc
    rcases List.mem_cons.mp hc with rfl | hc
    · decide
    · exact hDigits digits h c hc

end Decimal

end StorageRouting
