import Mathlib.Tactic.ByContra
import Mathlib.Tactic.SplitIfs
import StorageRouting.Bytes.Basic

/-
  The order of texts: it is that of their bytes in UTF-8, and
  the texts that begin alike stand together in it.

  Key definitions include:
    * `Text.utf8`

  Main statements:
    * `Text.lt_iff_utf8_lt`
    * `Text.not_append_lt`
    * `Text.lt_append_of_lt`
    * `Text.append_lt_of_not_startsWith`
-/

------------------------------------------------------------
-- The Order of Bytes
------------------------------------------------------------

namespace StorageRouting

namespace Text

/- The bytes of a text in UTF-8. -/
def utf8 (s : String) : List UInt8 :=
  (Bytes.ofString s).data.toList

/- The bytes of a text are those of its characters in order. -/
theorem utf8_eq_flatMap
    (s : String) :
    utf8 s = s.toList.flatMap String.utf8EncodeChar := by
  have hBytes : s.toUTF8 = s.toList.utf8Encode := by
    rw [String.utf8Encode_toList]
    rfl
  rw [utf8, Bytes.ofString, hBytes, List.utf8Encode]
  exact List.toList_data_toByteArray

/-
  Of two characters the smaller one has the smaller bytes: the
  first byte tells how many follow, and the others carry the
  number of the character from its highest digits on.
-/
theorem utf8EncodeChar_append_lt
    {c d : Char}
    (h : c < d)
    (after later : List UInt8) :
    String.utf8EncodeChar c ++ after <
      String.utf8EncodeChar d ++ later := by
  have hNumber : c.val.toNat < d.val.toNat := h
  have hBound : d.val.toNat < 1114112 := by
    have hValid := d.valid
    unfold UInt32.isValidChar Nat.isValidChar at hValid
    omega
  unfold String.utf8EncodeChar
  generalize c.val.toNat = v at hNumber
  generalize d.val.toNat = w at hNumber hBound
  -- the digits of the numbers to the base 64
  have hThird : ∀ n : Nat, n / 4096 = n / 64 / 64 := by
    intro n
    rw [Nat.div_div_eq_div_mul]
  have hFourth : ∀ n : Nat, n / 262144 = n / 64 / 64 / 64 := by
    intro n
    rw [Nat.div_div_eq_div_mul, Nat.div_div_eq_div_mul]
  dsimp only
  simp only [hThird, hFourth]
  split_ifs <;>
    simp only [List.cons_append, List.nil_append,
      List.cons_lt_cons_iff, UInt8.lt_iff_toNat_lt,
      ← UInt8.toNat_inj, UInt8.toNat_ofNat'] <;>
    omega

/- A smaller text has smaller bytes. -/
theorem flatMap_utf8EncodeChar_lt
    {cs ds : List Char}
    (h : cs < ds) :
    cs.flatMap String.utf8EncodeChar <
      ds.flatMap String.utf8EncodeChar := by
  induction cs generalizing ds with
  | nil =>
      cases ds with
      | nil => exact absurd h (List.not_lt_nil [])
      | cons d ds =>
          rw [List.flatMap_nil, List.flatMap_cons]
          rcases List.exists_cons_of_ne_nil
              (String.utf8EncodeChar_ne_nil (c := d)) with
            ⟨b, bs, hBytes⟩
          rw [hBytes]
          exact List.nil_lt_cons b _
  | cons c cs ih =>
      cases ds with
      | nil => exact absurd h (List.not_lt_nil (c :: cs))
      | cons d ds =>
          rw [List.flatMap_cons, List.flatMap_cons]
          rcases List.cons_lt_cons_iff.mp h with
            hLess | ⟨rfl, hRest⟩
          · exact utf8EncodeChar_append_lt hLess _ _
          · exact List.append_left_lt (ih hRest)

/- Texts are ordered as their bytes are. -/
theorem lt_iff_utf8_lt
    {s t : String} : s < t ↔ utf8 s < utf8 t := by
  rw [utf8_eq_flatMap, utf8_eq_flatMap]
  change s.toList < t.toList ↔ _
  constructor
  · exact flatMap_utf8EncodeChar_lt
  · intro h
    by_contra hNot
    rcases List.le_iff_lt_or_eq.mp (List.not_lt.mp hNot) with
      hLess | hSame
    · exact
        List.lt_asymm h (flatMap_utf8EncodeChar_lt hLess)
    · rw [hSame] at h
      exact List.lt_irrefl _ h

end Text

end StorageRouting

------------------------------------------------------------
-- Texts That Begin Alike
------------------------------------------------------------

namespace StorageRouting

namespace Text

/- A text is not after one that it begins. -/
theorem not_append_lt
    (start rest : List Char) : ¬ start ++ rest < start := by
  induction start with
  | nil => exact List.not_lt_nil rest
  | cons c cs ih =>
      rw [List.cons_append, List.cons_lt_cons_iff]
      rintro (h | ⟨_, h⟩)
      · exact Char.lt_irrefl c h
      · exact ih h

/- What is before a text is before all that begin with it. -/
theorem lt_append_of_lt
    {key start : List Char}
    (h : key < start)
    (rest : List Char) : key < start ++ rest := by
  rcases List.le_iff_lt_or_eq.mp
      (List.not_lt.mp (not_append_lt start rest)) with
    hLess | hSame
  · exact List.lt_trans h hLess
  · rw [← hSame]
    exact h

/-
  A text that is not before a start, and does not begin with
  it, is after all texts that do.
-/
theorem append_lt_of_not_startsWith
    {start key : List Char}
    (hReached : ¬ key < start)
    (hNot : ∀ more, key ≠ start ++ more)
    (rest : List Char) : start ++ rest < key := by
  induction start generalizing key with
  | nil => exact absurd rfl (hNot key)
  | cons c cs ih =>
      cases key with
      | nil => exact absurd (List.nil_lt_cons c cs) hReached
      | cons d ds =>
          rw [List.cons_lt_cons_iff, not_or] at hReached
          rw [List.cons_append, List.cons_lt_cons_iff]
          by_cases hSame : d = c
          · subst hSame
            refine Or.inr ⟨rfl, ih ?_ ?_⟩
            · exact fun h => hReached.2 ⟨rfl, h⟩
            · intro more hMore
              exact hNot more (by rw [hMore, List.cons_append])
          · left
            have hLe : c ≤ d := Char.not_lt.mp hReached.1
            by_contra hGreater
            exact
              hSame
                (Char.le_antisymm (Char.not_lt.mp hGreater) hLe)

end Text

end StorageRouting
