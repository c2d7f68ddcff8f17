import StorageRouting.Document.Xml.Text

/-
  Text that is written with escapes is read back as it was, and
  opens no element.

  Main statements:
    * `Xml.escapedChar_cases`
    * `Xml.unescape?_escaped`
    * `Xml.not_mem_escaped`
-/

------------------------------------------------------------
-- Characters
------------------------------------------------------------

namespace StorageRouting

namespace Xml

/- The name of an escape, which stands for a character. -/
structure Names
    (name : List Char)
    (c : Char) : Prop where
  plain : ∀ d ∈ name, d ≠ '&' ∧ d ≠ ';' ∧ d ≠ '<'
  stands : charOfEscape? name = some c

/-
  A character is written as itself, or between "&" and ";" by a
  name that stands for it.
-/
theorem escapedChar_cases (c : Char) :
    (escapedChar c = [c] ∧ c ≠ '&' ∧ c ≠ '<') ∨
    ∃ name, escapedChar c = '&' :: name ++ [';'] ∧ Names name c := by
  unfold escapedChar
  split
  · exact Or.inr ⟨"amp".toList, rfl, by simp, by decide⟩
  · exact Or.inr ⟨"lt".toList, rfl, by simp, by decide⟩
  · exact Or.inr ⟨"gt".toList, rfl, by simp, by decide⟩
  · exact Or.inr ⟨"quot".toList, rfl, by simp, by decide⟩
  · exact Or.inr ⟨"apos".toList, rfl, by simp, by decide⟩
  · exact Or.inr ⟨"#xD".toList, rfl, by simp, by decide⟩
  · exact Or.inr ⟨"#xA".toList, rfl, by simp, by decide⟩
  · rename_i hAmp hLess _ _ _ _ _
    split
    · rename_i hNext
      have hChar : c = Char.ofNat 0x85 := by
        rw [← hNext, Char.ofNat_toNat]
      rw [hChar]
      exact Or.inr ⟨"#x85".toList, rfl, by simp, by decide⟩
    · split
      · rename_i hLine
        have hChar : c = Char.ofNat 0x2028 := by
          rw [← hLine, Char.ofNat_toNat]
        rw [hChar]
        exact Or.inr ⟨"#x2028".toList, rfl, by simp, by decide⟩
      · exact Or.inl ⟨rfl, hAmp, hLess⟩

end Xml

end StorageRouting

------------------------------------------------------------
-- Texts
------------------------------------------------------------

namespace StorageRouting

namespace Xml

variable {c : Char}

/- An escape is read as the character that it stands for. -/
theorem Names.unescapeChars?_eq
    {name : List Char}
    (h : Names name c)
    (fuel : Nat)
    (rest : List Char) :
    unescapeChars? (fuel + 1) ('&' :: name ++ [';'] ++ rest) =
      (unescapeChars? fuel rest).map (c :: ·) := by
  have hKept : ∀ d ∈ name, decide (d ≠ '&') = true := by
    intro d hd
    exact decide_eq_true (h.plain d hd).1
  have hNoEnd : ∀ d ∈ name, (d == ';') = false := by
    intro d hd
    exact beq_eq_false_iff_ne.mpr (h.plain d hd).2.1
  have hFront :
      (name ++ ';' :: rest).takeWhile (· ≠ '&') =
        name ++ ';' :: rest.takeWhile (· ≠ '&') := by
    rw [List.takeWhile_append_of_pos hKept,
      List.takeWhile_cons_of_pos (by decide)]
  have hBehind :
      (name ++ ';' :: rest).drop (name.length + 1) = rest := by
    rw [← List.drop_drop, List.drop_left]
    rfl
  have hText :
      '&' :: name ++ [';'] ++ rest = '&' :: (name ++ ';' :: rest) := by
    simp
  rw [hText, unescapeChars?, hFront,
    Text.splitFirst_eq_some hNoEnd rfl]
  simp only [h.stands, hBehind]
  cases unescapeChars? fuel rest <;> rfl

/- So is one that is written as itself. -/
theorem unescapeChars?_cons
    (h : c ≠ '&')
    (fuel : Nat)
    (rest : List Char) :
    unescapeChars? (fuel + 1) (c :: rest) =
      (unescapeChars? fuel rest).map (c :: ·) := by
  rw [unescapeChars?]
  · cases unescapeChars? fuel rest <;> rfl
  · exact h

/-
  The written characters are read back, one at each step, so that
  no more steps are needed than there were characters.
-/
theorem unescapeChars?_flatMap
    (cs : List Char)
    (fuel : Nat)
    (h : cs.length ≤ fuel) :
    unescapeChars? fuel (cs.flatMap escapedChar) = some cs := by
  induction cs generalizing fuel with
  | nil => simp [unescapeChars?]
  | cons c cs ih =>
      rcases Nat.exists_eq_add_of_lt (Nat.lt_of_succ_le h) with ⟨n, rfl⟩
      have hRest := ih (cs.length + n) (Nat.le_add_right _ _)
      rw [List.flatMap_cons]
      rcases escapedChar_cases c with
        ⟨hPlain, hAmp, -⟩ | ⟨name, hName, hNames⟩
      · rw [hPlain, List.singleton_append, unescapeChars?_cons hAmp,
          hRest, Option.map_some]
      · rw [hName, hNames.unescapeChars?_eq, hRest, Option.map_some]

/- No escape is empty. -/
theorem length_le_length_flatMap_escapedChar
    (cs : List Char) :
    cs.length ≤ (cs.flatMap escapedChar).length := by
  induction cs with
  | nil => exact Nat.le_refl 0
  | cons c cs ih =>
      have hOne : 1 ≤ (escapedChar c).length := by
        rcases escapedChar_cases c with
          ⟨hPlain, -⟩ | ⟨name, hName, -⟩
        · rw [hPlain]
          exact Nat.le_refl 1
        · rw [hName, List.cons_append, List.length_cons]
          omega
      rw [List.flatMap_cons, List.length_append, List.length_cons]
      omega

/- Escaped text is read back. -/
theorem unescape?_escaped
    (s : String) :
    unescape? (escaped s) = some s := by
  have hLimit := length_le_length_flatMap_escapedChar s.toList
  rw [unescape?, escaped, String.toList_ofList,
    unescapeChars?_flatMap _ _ hLimit, Option.map_some,
    String.ofList_toList]

/- Escaped text opens no element. -/
theorem not_mem_escaped
    (s : String) :
    '<' ∉ (escaped s).toList := by
  rw [escaped, String.toList_ofList, List.mem_flatMap]
  rintro ⟨c, -, hMem⟩
  rcases escapedChar_cases c with
    ⟨hPlain, -, hLess⟩ | ⟨name, hName, hNames⟩
  · rw [hPlain, List.mem_singleton] at hMem
    exact hLess hMem.symm
  · rw [hName, List.cons_append, List.mem_cons, List.mem_append,
      List.mem_singleton] at hMem
    rcases hMem with hMark | hInside | hEnd
    · exact absurd hMark (by decide)
    · exact (hNames.plain '<' hInside).2.2 rfl
    · exact absurd hEnd (by decide)

end Xml

end StorageRouting
