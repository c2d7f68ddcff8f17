import Mathlib.Data.List.DropRight
import StorageRouting.Text.Blank

/-
  What trimming takes away: the blank characters at both ends
  of a text, and nothing else.

  Key definitions include:
    * `Text.AllBlank`
    * `Text.IsTrimmed`

  Main statements:
    * `Text.trimEnd_append_cons`
    * `Text.trimChars_append_blanks`
    * `Text.trimChars_append_cons`
    * `Text.trimChars_concat`
    * `Text.trimChars_surrounded`
-/

------------------------------------------------------------
-- Blanks at the Ends
------------------------------------------------------------

namespace StorageRouting

namespace Text

/- A text of blank characters only. -/
def AllBlank (cs : List Char) : Prop :=
  ∀ c ∈ cs, isBlank c = true

/- A text that neither starts nor ends with a blank character. -/
structure IsTrimmed (cs : List Char) : Prop where
  start : ∀ c ∈ cs.head?, isBlank c = false
  ending : ∀ c ∈ cs.getLast?, isBlank c = false

/- Visible characters of ASCII are not blank. -/
theorem isBlank_of_visible
    {c : Char}
    (hLow : 33 ≤ c.toNat)
    (hHigh : c.toNat ≤ 126) : isBlank c = false := by
  simp only [isBlank, Bool.or_eq_false_iff, Bool.and_eq_false_iff,
    decide_eq_false_iff_not, beq_eq_false_iff_ne]
  omega

/- The end of a text is trimmed as its start, read backwards. -/
theorem trimEnd_eq_rdropWhile (cs : List Char) :
    trimEnd cs = cs.rdropWhile isBlank :=
  rfl

/- Blanks at the end do not count. -/
theorem trimEnd_append_blanks
    (cs : List Char)
    {blanks : List Char}
    (h : AllBlank blanks) :
    trimEnd (cs ++ blanks) = trimEnd cs := by
  have hBlanks : blanks.reverse.dropWhile isBlank = [] :=
    List.dropWhile_eq_nil_iff.mpr
      (fun c hc => h c (List.mem_reverse.mp hc))
  rw [trimEnd, List.reverse_append, List.dropWhile_append, hBlanks]
  rfl

/- What is trimmed away at the end is blank. -/
theorem exists_blanks_of_trimEnd (cs : List Char) :
    ∃ blanks, AllBlank blanks ∧ cs = trimEnd cs ++ blanks := by
  refine
    ⟨cs.rtakeWhile isBlank, fun c hc => List.mem_rtakeWhile_imp hc,
      ?_⟩
  rw [trimEnd_eq_rdropWhile, List.rdropWhile_append_rtakeWhile]

/- Nothing in front of a character that is not blank is lost. -/
theorem trimEnd_append_cons
    (cs ds : List Char)
    {c : Char}
    (h : isBlank c = false) :
    trimEnd (cs ++ c :: ds) = cs ++ c :: trimEnd ds := by
  have hStop : ¬ isBlank c = true := by simp [h]
  unfold trimEnd
  rw [List.reverse_append, List.reverse_cons, List.append_assoc,
    List.singleton_append, List.dropWhile_append]
  cases ds.reverse.dropWhile isBlank with
  | nil => simp [List.dropWhile_cons_of_neg hStop]
  | cons d rest => simp

/-
  Blanks behind a text stay when its start is trimmed, unless
  the text itself is blank.
-/
theorem trimStart_append_blanks
    (cs : List Char)
    {blanks : List Char}
    (h : AllBlank blanks) :
    trimStart (cs ++ blanks) = trimStart cs ++ blanks ∨
      (trimStart cs = [] ∧ trimStart (cs ++ blanks) = []) := by
  unfold trimStart
  rw [List.dropWhile_append]
  cases hRest : cs.dropWhile isBlank with
  | nil =>
      have hBlanks : blanks.dropWhile isBlank = [] :=
        List.dropWhile_eq_nil_iff.mpr h
      exact .inr ⟨rfl, by simpa using hBlanks⟩
  | cons c rest => exact .inl rfl

/- Blanks behind a text do not count. -/
theorem trimChars_append_blanks
    (cs : List Char)
    {blanks : List Char}
    (h : AllBlank blanks) :
    trimChars (cs ++ blanks) = trimChars cs := by
  unfold trimChars
  rcases trimStart_append_blanks cs h with hKept | ⟨hNone, hNone'⟩
  · rw [hKept, trimEnd_append_blanks _ h]
  · rw [hNone, hNone']

/- Blanks in front of a text are trimmed away. -/
theorem trimStart_blanks_append
    {blanks : List Char}
    (h : AllBlank blanks)
    (cs : List Char) :
    trimStart (blanks ++ cs) = trimStart cs := by
  have hBlanks : blanks.dropWhile isBlank = [] :=
    List.dropWhile_eq_nil_iff.mpr h
  rw [trimStart, List.dropWhile_append, hBlanks]
  rfl

/- A text that does not start with a blank keeps its start. -/
theorem trimStart_eq
    {cs : List Char}
    (h : ∀ c ∈ cs.head?, isBlank c = false) :
    trimStart cs = cs := by
  cases cs with
  | nil => rfl
  | cons c rest => simp [trimStart, h c rfl]

/- Blanks in front of a text do not count. -/
theorem trimChars_blanks_append
    {blanks : List Char}
    (h : AllBlank blanks)
    (cs : List Char) :
    trimChars (blanks ++ cs) = trimChars cs := by
  rw [trimChars, trimStart_blanks_append h, trimChars]

/-
  Of a text that does not start with a blank only the end is
  trimmed, down to a character that is not blank.
-/
theorem trimChars_append_cons
    {front : List Char}
    (hFront : ∀ c ∈ front.head?, isBlank c = false)
    {c : Char}
    (h : isBlank c = false)
    (behind : List Char) :
    trimChars (front ++ c :: behind) =
      front ++ c :: trimEnd behind := by
  have hStart : trimStart (front ++ c :: behind) =
      front ++ c :: behind := by
    apply trimStart_eq
    cases front with
    | nil => simpa using h
    | cons d rest => exact hFront
  rw [trimChars, hStart, trimEnd_append_cons _ _ h]

/- A last character that is not blank stays. -/
theorem trimChars_concat
    (cs : List Char)
    {c : Char}
    (h : isBlank c = false) :
    trimChars (cs ++ [c]) = trimStart cs ++ [c] := by
  have hStart : trimStart (cs ++ [c]) = trimStart cs ++ [c] := by
    unfold trimStart
    rw [List.dropWhile_append]
    cases cs.dropWhile isBlank with
    | nil => simp [h]
    | cons d rest => rfl
  rw [trimChars, hStart, trimEnd_eq_rdropWhile,
    List.rdropWhile_concat_neg _ _ _ (by simp [h])]

/- A trimmed text stays as it is. -/
theorem IsTrimmed.trimChars_eq
    {cs : List Char}
    (h : IsTrimmed cs) : trimChars cs = cs := by
  rw [trimChars, trimStart_eq h.start]
  rcases List.eq_nil_or_concat cs with rfl | ⟨front, c, rfl⟩
  · rfl
  · have hEnd : isBlank c = false := h.ending c (by simp)
    rw [List.concat_eq_append, trimEnd_eq_rdropWhile,
      List.rdropWhile_concat_neg _ _ _ (by simp [hEnd])]

/- Only the blanks around a trimmed text are taken away. -/
theorem trimChars_surrounded
    {before cs after : List Char}
    (hBefore : AllBlank before)
    (h : IsTrimmed cs)
    (hAfter : AllBlank after) :
    trimChars (before ++ cs ++ after) = cs := by
  rw [trimChars_append_blanks _ hAfter,
    trimChars_blanks_append hBefore, h.trimChars_eq]

/- Trimming takes blanks away at both ends of a text. -/
theorem exists_blanks_of_trimChars (cs : List Char) :
    ∃ before after,
      AllBlank before ∧ AllBlank after ∧
        cs = before ++ trimChars cs ++ after := by
  rcases exists_blanks_of_trimEnd (trimStart cs) with
    ⟨after, hAfter, hStart⟩
  refine
    ⟨cs.takeWhile isBlank, after,
      fun c hc => List.mem_takeWhile_imp hc, hAfter, ?_⟩
  rw [trimChars, List.append_assoc, ← hStart, trimStart,
    List.takeWhile_append_dropWhile]

/-
  A character that is not blank stands in a text with blanks
  around it only if it stands in the text.
-/
theorem not_mem_surrounded
    {before cs after : List Char}
    (hBefore : AllBlank before)
    (hAfter : AllBlank after)
    {c : Char}
    (hBlank : isBlank c = false)
    (h : c ∉ cs) : c ∉ before ++ cs ++ after := by
  intro hMem
  simp only [List.mem_append] at hMem
  rcases hMem with (hMem | hMem) | hMem
  · rw [hBefore c hMem] at hBlank
    cases hBlank
  · exact h hMem
  · rw [hAfter c hMem] at hBlank
    cases hBlank

end Text

end StorageRouting
