import Mathlib.Tactic.SplitIfs
import StorageRouting.Bytes.Base64
import StorageRouting.Text.Blank

/-
  Base64 has one written form: a text denotes bytes exactly if it
  is what encoding them gives.

  Main statements:
    * `Base64.decode?_eq_some_iff`
    * `Base64.trimChars_encode`
-/

------------------------------------------------------------
-- Digits
------------------------------------------------------------

namespace StorageRouting

namespace Base64

/- A digit stands for the number that it was made of. -/
theorem number?_digit
    {n : Nat}
    (h : n < 64) : number? (digit n) = some n := by
  have hAll : ∀ m < 64, number? (digit m) = some m := by decide
  exact hAll n h

/- No digit is taken for padding. -/
theorem digit_ne_padding
    {n : Nat}
    (h : n < 64) : digit n ≠ '=' := by
  have hAll : ∀ m < 64, digit m ≠ '=' := by decide
  exact hAll n h

/- Only one character stands for a number. -/
theorem digit_of_number?
    {c : Char}
    {n : Nat}
    (h : number? c = some n) : n < 64 ∧ digit n = c := by
  have hSame : Char.ofNat c.toNat = c := Char.ofNat_toNat c
  unfold number? at h
  split_ifs at h with hUpper hLower hDigit hPlus hSlash
  · have hLow : 65 ≤ c.toNat := hUpper.1
    have hHigh : c.toNat ≤ 90 := hUpper.2
    cases h
    refine ⟨by omega, ?_⟩
    rw [digit, if_pos (by omega), Nat.add_sub_cancel' hLow, hSame]
  · have hLow : 97 ≤ c.toNat := hLower.1
    have hHigh : c.toNat ≤ 122 := hLower.2
    cases h
    refine ⟨by omega, ?_⟩
    rw [digit, if_neg (by omega), if_pos (by omega),
      Nat.add_sub_cancel, Nat.add_sub_cancel' hLow, hSame]
  · have hLow : 48 ≤ c.toNat := hDigit.1
    have hHigh : c.toNat ≤ 57 := hDigit.2
    cases h
    refine ⟨by omega, ?_⟩
    rw [digit, if_neg (by omega), if_neg (by omega),
      if_pos (by omega), Nat.add_sub_cancel,
      Nat.add_sub_cancel' hLow, hSame]
  · cases h
    exact ⟨by decide, hPlus ▸ rfl⟩
  · cases h
    exact ⟨by decide, hSlash ▸ rfl⟩

end Base64

end StorageRouting

------------------------------------------------------------
-- Groups of Digits
------------------------------------------------------------

namespace StorageRouting

namespace Base64

/- A byte is the number that it was made of. -/
theorem toUInt8_eq_iff
    {n : Nat}
    {b : UInt8}
    (h : n < 256) : n.toUInt8 = b ↔ n = b.toNat := by
  have hValue : n.toUInt8.toNat = n := by
    simpa using Nat.mod_eq_of_lt h
  rw [← UInt8.toNat_inj, hValue]

/- Three digits hold two bytes, with two bits left over. -/
theorem join_three (n : Nat) :
    n / 1024 * 1024 + n / 16 % 64 * 16 + n % 16 * 4 / 4 = n := by
  omega

theorem split_three
    {x y z n : Nat}
    (hY : y < 64)
    (hZ : z < 64)
    (hLeft : z % 4 = 0)
    (h : x * 1024 + y * 16 + z / 4 = n) :
    n / 1024 = x ∧ n / 16 % 64 = y ∧ n % 16 * 4 = z := by
  omega

/- Four digits hold three bytes. -/
theorem join_four (n : Nat) :
    n / 262144 * 262144 + n / 4096 % 64 * 4096 +
      n / 64 % 64 * 64 + n % 64 = n := by
  omega

theorem split_four
    {x y z w n : Nat}
    (hY : y < 64)
    (hZ : z < 64)
    (hW : w < 64)
    (h : x * 262144 + y * 4096 + z * 64 + w = n) :
    n / 262144 = x ∧ n / 4096 % 64 = y ∧ n / 64 % 64 = z ∧
      n % 64 = w := by
  omega

/- The number of two bytes gives them back. -/
theorem bytes_of_two
    {a b : UInt8}
    {n : Nat} :
    a.toNat * 256 + b.toNat = n ↔
      n < 65536 ∧ (n / 256).toUInt8 = a ∧ (n % 256).toUInt8 = b := by
  have hFirst : a.toNat < 256 := a.toNat_lt
  have hSecond : b.toNat < 256 := b.toNat_lt
  constructor
  · intro h
    have hHigh : n / 256 < 256 := by omega
    have hLow : n % 256 < 256 := by omega
    rw [toUInt8_eq_iff hHigh, toUInt8_eq_iff hLow]
    omega
  · rintro ⟨hBound, hA, hB⟩
    have hHigh : n / 256 < 256 := by omega
    have hLow : n % 256 < 256 := by omega
    rw [toUInt8_eq_iff hHigh] at hA
    rw [toUInt8_eq_iff hLow] at hB
    omega

/- The number of three bytes gives them back. -/
theorem bytes_of_three
    {a b c : UInt8}
    {n : Nat} :
    a.toNat * 65536 + b.toNat * 256 + c.toNat = n ↔
      n < 16777216 ∧ (n / 65536).toUInt8 = a ∧
        (n / 256 % 256).toUInt8 = b ∧ (n % 256).toUInt8 = c := by
  have hFirst : a.toNat < 256 := a.toNat_lt
  have hSecond : b.toNat < 256 := b.toNat_lt
  have hThird : c.toNat < 256 := c.toNat_lt
  constructor
  · intro h
    have hHigh : n / 65536 < 256 := by omega
    have hMiddle : n / 256 % 256 < 256 := by omega
    have hLow : n % 256 < 256 := by omega
    rw [toUInt8_eq_iff hHigh, toUInt8_eq_iff hMiddle,
      toUInt8_eq_iff hLow]
    omega
  · rintro ⟨hBound, hA, hB, hC⟩
    have hHigh : n / 65536 < 256 := by omega
    have hMiddle : n / 256 % 256 < 256 := by omega
    have hLow : n % 256 < 256 := by omega
    rw [toUInt8_eq_iff hHigh] at hA
    rw [toUInt8_eq_iff hMiddle] at hB
    rw [toUInt8_eq_iff hLow] at hC
    omega

end Base64

end StorageRouting

------------------------------------------------------------
-- The Written Form
------------------------------------------------------------

namespace StorageRouting

namespace Base64

/- What is encoded decodes to itself. -/
theorem decode?_encode
    (bs : List UInt8) : decode? (encode bs) = some bs := by
  induction bs using encode.induct with
  | case1 => rfl
  | case2 a =>
      have hByte : a.toNat < 256 := a.toNat_lt
      have hHigh : a.toNat / 4 < 64 := by omega
      have hLow : a.toNat % 4 * 16 < 64 := by omega
      have hLeft : a.toNat % 4 * 16 % 16 = 0 := by omega
      have hValue :
          (a.toNat / 4 * 4 + a.toNat % 4 * 16 / 16).toUInt8 = a := by
        rw [toUInt8_eq_iff (by omega)]
        omega
      simp only [encode, decode?, number?_digit hHigh,
        number?_digit hLow, Option.bind_eq_bind, Option.bind_some,
        hLeft, if_true, hValue]
  | case3 a b =>
      generalize hNumber : a.toNat * 256 + b.toNat = n
      rcases bytes_of_two.mp hNumber with ⟨hBound, hA, hB⟩
      have hHigh : n / 1024 < 64 := by omega
      have hMiddle : n / 16 % 64 < 64 := Nat.mod_lt _ (by decide)
      have hLow : n % 16 * 4 < 64 := by omega
      have hLeft : n % 16 * 4 % 4 = 0 := Nat.mul_mod_left _ _
      simp only [encode, hNumber]
      rw [decode?.eq_3 _ _ _ (digit_ne_padding hLow)]
      simp only [number?_digit hHigh, number?_digit hMiddle,
        number?_digit hLow, Option.bind_eq_bind, Option.bind_some,
        hLeft, if_true, join_three, hA, hB]
  | case4 a b c rest ih =>
      generalize hNumber :
        a.toNat * 65536 + b.toNat * 256 + c.toNat = n
      rcases bytes_of_three.mp hNumber with ⟨hBound, hA, hB, hC⟩
      have hFirst : n / 262144 < 64 := by omega
      have hSecond : n / 4096 % 64 < 64 := Nat.mod_lt _ (by decide)
      have hThird : n / 64 % 64 < 64 := Nat.mod_lt _ (by decide)
      have hFourth : n % 64 < 64 := Nat.mod_lt _ (by decide)
      have hPadding := digit_ne_padding hFourth
      simp only [encode, hNumber]
      rw [decode?.eq_4 _ _ _ _ _ (fun _ h _ => hPadding h)
        (fun h _ => hPadding h)]
      simp only [number?_digit hFirst, number?_digit hSecond,
        number?_digit hThird, number?_digit hFourth,
        Option.bind_eq_bind, Option.bind_some, join_four, ih, hA,
        hB, hC]
      rfl

/- Only what was encoded decodes. -/
theorem encode_of_decode?
    {cs : List Char}
    {bs : List UInt8}
    (h : decode? cs = some bs) : encode bs = cs := by
  induction cs using decode?.induct generalizing bs with
  | case1 =>
      cases h
      rfl
  | case2 a b =>
      simp only [decode?, Option.bind_eq_bind,
        Option.bind_eq_some_iff] at h
      rcases h with ⟨x, hA, y, hB, h⟩
      split at h
      case isFalse => cases h
      case isTrue hLeft =>
        cases h
        rcases digit_of_number? hA with ⟨hX, rfl⟩
        rcases digit_of_number? hB with ⟨hY, rfl⟩
        have hByte : (x * 4 + y / 16).toUInt8.toNat = x * 4 + y / 16 :=
          ((toUInt8_eq_iff (by omega)).mp rfl).symm
        have hDigits :
            (x * 4 + y / 16) / 4 = x ∧
              (x * 4 + y / 16) % 4 * 16 = y := by
          omega
        simp only [encode, hByte, hDigits.1, hDigits.2]
  | case3 a b c hPadding =>
      rw [decode?.eq_3 a b c hPadding] at h
      simp only [Option.bind_eq_bind, Option.bind_eq_some_iff] at h
      rcases h with ⟨x, hA, y, hB, z, hC, h⟩
      split at h
      case isFalse => cases h
      case isTrue hLeft =>
        cases h
        rcases digit_of_number? hA with ⟨hX, rfl⟩
        rcases digit_of_number? hB with ⟨hY, rfl⟩
        rcases digit_of_number? hC with ⟨hZ, rfl⟩
        generalize hNumber : x * 1024 + y * 16 + z / 4 = n
        have hBound : n < 65536 := by omega
        have hDigits := split_three hY hZ hLeft hNumber
        rw [encode, bytes_of_two.mpr ⟨hBound, rfl, rfl⟩]
        simp only [hDigits.1, hDigits.2.1, hDigits.2.2]
  | case4 a b c d rest hTwo hOne ih =>
      rw [decode?.eq_4 a b c d rest hTwo hOne] at h
      simp only [Option.bind_eq_bind, Option.bind_eq_some_iff] at h
      rcases h with ⟨x, hA, y, hB, z, hC, w, hD, more, hMore, h⟩
      cases h
      rcases digit_of_number? hA with ⟨hX, rfl⟩
      rcases digit_of_number? hB with ⟨hY, rfl⟩
      rcases digit_of_number? hC with ⟨hZ, rfl⟩
      rcases digit_of_number? hD with ⟨hW, rfl⟩
      generalize hNumber : x * 262144 + y * 4096 + z * 64 + w = n
      have hBound : n < 16777216 := by omega
      have hDigits := split_four hY hZ hW hNumber
      rw [encode, bytes_of_three.mpr ⟨hBound, rfl, rfl, rfl⟩]
      simp only [hDigits.1, hDigits.2.1, hDigits.2.2.1,
        hDigits.2.2.2, ih hMore]
  | case5 t hNil hTwo hOne hCons =>
      rw [decode?.eq_5 t hNil hTwo hOne hCons] at h
      cases h

/- A text denotes bytes if it is what encoding them gives. -/
theorem decode?_eq_some_iff
    {cs : List Char}
    {bs : List UInt8} :
    decode? cs = some bs ↔ encode bs = cs := by
  constructor
  · exact encode_of_decode?
  · rintro rfl
    exact decode?_encode bs

end Base64

end StorageRouting

------------------------------------------------------------
-- Characters
------------------------------------------------------------

namespace StorageRouting

namespace Base64

/- Encoded bytes are written in digits and padding. -/
theorem digit_of_mem_encode
    {bs : List UInt8}
    {c : Char}
    (h : c ∈ encode bs) : c = '=' ∨ ∃ n < 64, digit n = c := by
  induction bs using encode.induct with
  | case1 => cases h
  | case2 a =>
      have hByte : a.toNat < 256 := a.toNat_lt
      simp only [encode, List.mem_cons, List.not_mem_nil,
        or_false] at h
      rcases h with rfl | rfl | rfl | rfl
      · exact Or.inr ⟨_, by omega, rfl⟩
      · exact Or.inr ⟨_, by omega, rfl⟩
      · exact Or.inl rfl
      · exact Or.inl rfl
  | case3 a b =>
      have hFirst : a.toNat < 256 := a.toNat_lt
      have hSecond : b.toNat < 256 := b.toNat_lt
      simp only [encode, List.mem_cons, List.not_mem_nil,
        or_false] at h
      rcases h with rfl | rfl | rfl | rfl
      · exact Or.inr ⟨_, by omega, rfl⟩
      · exact Or.inr ⟨_, Nat.mod_lt _ (by decide), rfl⟩
      · exact Or.inr ⟨_, by omega, rfl⟩
      · exact Or.inl rfl
  | case4 a b c rest ih =>
      have hFirst : a.toNat < 256 := a.toNat_lt
      have hSecond : b.toNat < 256 := b.toNat_lt
      have hThird : c.toNat < 256 := c.toNat_lt
      simp only [encode, List.mem_cons] at h
      rcases h with rfl | rfl | rfl | rfl | h
      · exact Or.inr ⟨_, by omega, rfl⟩
      · exact Or.inr ⟨_, Nat.mod_lt _ (by decide), rfl⟩
      · exact Or.inr ⟨_, Nat.mod_lt _ (by decide), rfl⟩
      · exact Or.inr ⟨_, Nat.mod_lt _ (by decide), rfl⟩
      · exact ih h

theorem isBlank_of_mem_encode
    {bs : List UInt8}
    {c : Char}
    (h : c ∈ encode bs) : Text.isBlank c = false := by
  have hAll : ∀ n < 64, Text.isBlank (digit n) = false := by
    decide
  rcases digit_of_mem_encode h with rfl | ⟨n, hBound, rfl⟩
  · decide
  · exact hAll n hBound

/- Trimming leaves encoded bytes as they are. -/
theorem trimChars_encode
    (bs : List UInt8) :
    Text.trimChars (encode bs) = encode bs :=
  Text.trimChars_eq (fun _ hc => isBlank_of_mem_encode hc)

end Base64

end StorageRouting
