import StorageRouting.Proofs.Number.Decimal
import StorageRouting.Proofs.Text.Trimming
import StorageRouting.Time.Expiration

/-
  Which texts are read as times, and as how many seconds: a
  number of 64 bits, the letter of a unit in either case or none,
  blanks around, and an exact product within the bounds.

  Key definitions include:
    * `Expiration.Ending`
    * `Expiration.Lasts`

  Main statements:
    * `Expiration.ending_singleton_iff`
    * `Expiration.splitUnit_reads_iff`
    * `Expiration.parse_eq_ok_iff`
    * `Expiration.parse_reads_exact_times`
-/

------------------------------------------------------------
-- Letters
------------------------------------------------------------

namespace StorageRouting

namespace Text

/- A letter in lower case is a lower letter, or 32 above. -/
theorem toLower_cases (c : Char) :
    c.toLower = c ∨ c.toLower.toNat = c.toNat + 32 := by
  delta Char.toLower
  split
  · rename_i hUpper
    right
    have hHigh : c.toNat ≤ 90 :=
      UInt32.le_iff_toNat_le.mp hUpper.2
    have hSmall : c.toNat + 32 < 4294967296 := by omega
    change (c.val + ('a'.val - 'A'.val)).toNat = c.toNat + 32
    rw [UInt32.toNat_add]
    exact Nat.mod_eq_of_lt hSmall
  · exact .inl rfl

/- The two letters that one in lower case stands for. -/
theorem eq_or_eq_of_toLower
    {c lower : Char}
    (h : c.toLower = lower) :
    c = lower ∨ c = Char.ofNat (lower.toNat - 32) := by
  rcases toLower_cases c with hSame | hShift
  · exact .inl (hSame.symm.trans h)
  · right
    rw [← h, hShift, Nat.add_sub_cancel, Char.ofNat_toNat]

end Text

end StorageRouting

------------------------------------------------------------
-- Written Times
------------------------------------------------------------

namespace StorageRouting

namespace Expiration

/- The endings of written times, and the seconds of their units. -/
inductive Ending : List Char → Nat → Prop where
| bare : Ending [] 1
| second
    {c : Char}
    (h : c = 's' ∨ c = 'S') : Ending [c] 1
| minute
    {c : Char}
    (h : c = 'm' ∨ c = 'M') : Ending [c] 60
| hour
    {c : Char}
    (h : c = 'h' ∨ c = 'H') : Ending [c] 3600
| day
    {c : Char}
    (h : c = 'd' ∨ c = 'D') : Ending [c] 86400
| week
    {c : Char}
    (h : c = 'w' ∨ c = 'W') : Ending [c] 604800

/-
  A text stands for a time in seconds: with blanks around it is
  a number of 64 bits and an ending, and the product of number
  and unit is at least a second and at most seven days.
-/
inductive Lasts (s : String) : Nat → Prop where
| written
    {before number ending after : List Char}
    {count unit : Nat}
    (text : s.toList = before ++ (number ++ ending) ++ after)
    (blank_before : Text.AllBlank before)
    (blank_after : Text.AllBlank after)
    (denotes : Decimal.DenotesUnsigned number count)
    (ends : Ending ending unit)
    (least : 1 ≤ count * unit)
    (most : count * unit ≤ 604800) : Lasts s (count * unit)

/- A letter is an ending if it is read as that of a unit. -/
theorem ending_singleton_iff
    {c : Char}
    {unit : Nat} :
    Ending [c] unit ↔
      c.isAlpha = true ∧ unitSeconds? c.toLower = some unit := by
  constructor
  · intro h
    cases h with
    | second h => rcases h with rfl | rfl <;> exact ⟨rfl, rfl⟩
    | minute h => rcases h with rfl | rfl <;> exact ⟨rfl, rfl⟩
    | hour h => rcases h with rfl | rfl <;> exact ⟨rfl, rfl⟩
    | day h => rcases h with rfl | rfl <;> exact ⟨rfl, rfl⟩
    | week h => rcases h with rfl | rfl <;> exact ⟨rfl, rfl⟩
  · rintro ⟨_, hUnit⟩
    unfold unitSeconds? at hUnit
    split at hUnit
    · rename_i hLower
      cases hUnit
      exact .second (Text.eq_or_eq_of_toLower hLower)
    · rename_i hLower
      cases hUnit
      exact .minute (Text.eq_or_eq_of_toLower hLower)
    · rename_i hLower
      cases hUnit
      exact .hour (Text.eq_or_eq_of_toLower hLower)
    · rename_i hLower
      cases hUnit
      exact .day (Text.eq_or_eq_of_toLower hLower)
    · rename_i hLower
      cases hUnit
      exact .week (Text.eq_or_eq_of_toLower hLower)
    · cases hUnit

/- All characters of an ending are visible. -/
theorem Ending.visible
    {ending : List Char}
    {unit : Nat}
    (h : Ending ending unit) :
    ∀ c ∈ ending, 33 ≤ c.toNat ∧ c.toNat ≤ 126 := by
  intro c hc
  cases h with
  | bare => cases hc
  | second h =>
      cases List.mem_singleton.mp hc
      rcases h with rfl | rfl <;> decide
  | minute h =>
      cases List.mem_singleton.mp hc
      rcases h with rfl | rfl <;> decide
  | hour h =>
      cases List.mem_singleton.mp hc
      rcases h with rfl | rfl <;> decide
  | day h =>
      cases List.mem_singleton.mp hc
      rcases h with rfl | rfl <;> decide
  | week h =>
      cases List.mem_singleton.mp hc
      rcases h with rfl | rfl <;> decide

end Expiration

end StorageRouting

------------------------------------------------------------
-- Reading
------------------------------------------------------------

namespace StorageRouting

namespace Expiration

variable {cs number ending : List Char} {count unit : Nat}

/- A letter at the end is cut off, in lower case. -/
theorem splitUnit_concat_letter
    {c : Char}
    (h : c.isAlpha = true) :
    splitUnit (cs ++ [c]) = (cs, c.toLower) := by
  simp [splitUnit, h]

/- Anything else at the end stays where it is. -/
theorem splitUnit_concat_other
    {c : Char}
    (h : c.isAlpha = false) :
    splitUnit (cs ++ [c]) = (cs ++ [c], 's') := by
  simp [splitUnit, h]

/- What is cut in two and read is a number with an ending. -/
theorem splitUnit_reads_iff :
    Decimal.unsigned64? (splitUnit cs).1 = some count ∧
        unitSeconds? (splitUnit cs).2 = some unit ↔
      ∃ number ending,
        cs = number ++ ending ∧
        Decimal.DenotesUnsigned number count ∧
        Ending ending unit := by
  rw [Decimal.unsigned64?_eq_some_iff]
  constructor
  · rintro ⟨hNumber, hUnit⟩
    rcases List.eq_nil_or_concat cs with rfl | ⟨front, c, rfl⟩
    · cases hUnit
      exact ⟨[], [], rfl, hNumber, .bare⟩
    · rw [List.concat_eq_append] at hNumber hUnit ⊢
      cases hAlpha : c.isAlpha with
      | true =>
          rw [splitUnit_concat_letter hAlpha] at hNumber hUnit
          exact
            ⟨front, [c], rfl, hNumber,
              ending_singleton_iff.mpr ⟨hAlpha, hUnit⟩⟩
      | false =>
          rw [splitUnit_concat_other hAlpha] at hNumber hUnit
          cases hUnit
          exact
            ⟨front ++ [c], [], (List.append_nil _).symm, hNumber,
              .bare⟩
  · rintro ⟨number, ending, rfl, hNumber, hEnding⟩
    rcases List.eq_nil_or_concat ending with
      rfl | ⟨front, c, rfl⟩
    · cases hEnding
      rcases hNumber.exists_last with ⟨front, last, rfl, hLast⟩
      rw [List.append_nil,
        splitUnit_concat_other (Decimal.isAlpha_of_isDigit hLast)]
      exact ⟨hNumber, rfl⟩
    · have hFront : front = [] := by
        cases front with
        | nil => rfl
        | cons d rest => cases rest <;> cases hEnding
      subst hFront
      rcases ending_singleton_iff.mp hEnding with ⟨hAlpha, hUnit⟩
      rw [List.concat_eq_append, List.nil_append,
        splitUnit_concat_letter hAlpha]
      exact ⟨hNumber, hUnit⟩

/- A product is taken as it is, within the bounds. -/
theorem bounded_eq_ok_iff
    {s : String}
    {seconds n : Nat} :
    bounded s seconds = .ok n ↔
      n = seconds ∧ 1 ≤ seconds ∧ seconds ≤ 604800 := by
  have hSmall : 604800 < Width.count 64 := by decide
  unfold bounded
  split
  · rename_i hLarge
    have hOut : ¬ seconds < Width.count 64 := by
      simpa [← Width.isUnsigned_iff] using hLarge
    constructor
    · intro h
      cases h
    · rintro ⟨_, _, hMost⟩
      exact absurd (Nat.lt_of_le_of_lt hMost hSmall) hOut
  · split
    · rename_i hNone
      simp [hNone]
    · split
      · rename_i hLong
        have hOver : 604800 < seconds := hLong
        constructor
        · intro h
          cases h
        · rintro ⟨_, _, hMost⟩
          omega
      · rename_i hSome hShort
        have hMost : seconds ≤ 604800 := Nat.not_lt.mp hShort
        constructor
        · intro h
          cases h
          exact ⟨rfl, Nat.one_le_iff_ne_zero.mpr hSome, hMost⟩
        · rintro ⟨rfl, _⟩
          rfl

/- What is read of a text, in terms of its parts. -/
theorem parse_eq_ok_iff_parts
    {s : String}
    {n : Nat} :
    parse s = .ok n ↔
      ∃ count unit,
        (Decimal.unsigned64?
            (splitUnit (Text.trimChars s.toList)).1 = some count ∧
          unitSeconds? (splitUnit (Text.trimChars s.toList)).2 =
            some unit) ∧
        n = count * unit ∧
        1 ≤ count * unit ∧
        count * unit ≤ 604800 := by
  have hText :
      (Text.trim s).toList = Text.trimChars s.toList :=
    String.toList_ofList
  unfold parse
  dsimp only
  rw [hText]
  split
  · rename_i hEmpty
    have hNothing : Text.trimChars s.toList = [] := by
      rw [← hText]
      simpa using hEmpty
    rw [hNothing]
    constructor
    · intro h
      cases h
    · rintro ⟨count, unit, ⟨hNumber, _⟩, _⟩
      cases hNumber
  · cases hNumber :
        Decimal.unsigned64?
          (splitUnit (Text.trimChars s.toList)).1 with
    | none => simp
    | some count =>
        cases hUnit :
            unitSeconds? (splitUnit (Text.trimChars s.toList)).2 with
        | none => simp
        | some unit =>
            simp only [bounded_eq_ok_iff, Option.some.injEq]
            constructor
            · intro h
              exact ⟨count, unit, ⟨rfl, rfl⟩, h⟩
            · rintro ⟨_, _, ⟨rfl, rfl⟩, h⟩
              exact h

/- A number with an ending neither starts nor ends blank. -/
theorem isTrimmed_of_reads
    (hNumber : Decimal.DenotesUnsigned number count)
    (hEnding : Ending ending unit) :
    Text.IsTrimmed (number ++ ending) := by
  have hVisible :
      ∀ c ∈ number ++ ending, Text.isBlank c = false := by
    intro c hc
    rcases List.mem_append.mp hc with hc | hc
    · have hRange := hNumber.visible c hc
      exact Text.isBlank_of_visible hRange.1 hRange.2
    · have hRange := hEnding.visible c hc
      exact Text.isBlank_of_visible hRange.1 hRange.2
  exact
    ⟨fun c hc => hVisible c (List.mem_of_mem_head? hc),
      fun c hc => hVisible c (List.mem_of_mem_getLast? hc)⟩

/- A text is read as a time exactly if it stands for that. -/
theorem parse_eq_ok_iff
    {s : String}
    {n : Nat} : parse s = .ok n ↔ Lasts s n := by
  rw [parse_eq_ok_iff_parts]
  constructor
  · rintro ⟨count, unit, hReads, rfl, hLeast, hMost⟩
    rcases splitUnit_reads_iff.mp hReads with
      ⟨number, ending, hText, hNumber, hEnding⟩
    rcases Text.exists_blanks_of_trimChars s.toList with
      ⟨before, after, hBefore, hAfter, hAround⟩
    rw [hText] at hAround
    exact
      .written hAround hBefore hAfter hNumber hEnding hLeast hMost
  · rintro ⟨hAround, hBefore, hAfter, hNumber, hEnding, hLeast, hMost⟩
    rename_i before number ending after count unit
    have hTrimmed :
        Text.trimChars s.toList = number ++ ending := by
      rw [hAround]
      exact
        Text.trimChars_surrounded hBefore
          (isTrimmed_of_reads hNumber hEnding) hAfter
    refine ⟨count, unit, ?_, rfl, hLeast, hMost⟩
    rw [hTrimmed]
    exact
      splitUnit_reads_iff.mpr
        ⟨number, ending, rfl, hNumber, hEnding⟩

/-
  A text that stands for a time is read as its exact number of
  seconds.  Any other text is an error; so is one that has, when
  the blanks around it are gone, a blank or a character beyond
  ASCII.
-/
theorem parse_reads_exact_times (s : String) :
    (∀ n, parse s = .ok n ↔ Lasts s n) ∧
      ((∀ n, ¬ Lasts s n) → ∃ text, parse s = .error text) ∧
      ((∃ c ∈ Text.trimChars s.toList,
          Text.isBlank c = true ∨ 128 ≤ c.toNat) →
        ∃ text, parse s = .error text) := by
  have hError :
      (∀ n, ¬ Lasts s n) → ∃ text, parse s = .error text := by
    intro hNone
    cases hParse : parse s with
    | error text => exact ⟨text, rfl⟩
    | ok n => exact absurd (parse_eq_ok_iff.mp hParse) (hNone n)
  refine ⟨fun n => parse_eq_ok_iff, hError, ?_⟩
  rintro ⟨c, hc, hOdd⟩
  apply hError
  intro n hLasts
  rcases parse_eq_ok_iff_parts.mp (parse_eq_ok_iff.mpr hLasts) with
    ⟨count, unit, hReads, _⟩
  rcases splitUnit_reads_iff.mp hReads with
    ⟨number, ending, hText, hNumber, hEnding⟩
  rw [hText] at hc
  have hRange : 33 ≤ c.toNat ∧ c.toNat ≤ 126 := by
    rcases List.mem_append.mp hc with hc | hc
    · exact hNumber.visible c hc
    · exact hEnding.visible c hc
  rcases hOdd with hBlank | hFar
  · rw [Text.isBlank_of_visible hRange.1 hRange.2] at hBlank
    cases hBlank
  · omega

end Expiration

end StorageRouting
