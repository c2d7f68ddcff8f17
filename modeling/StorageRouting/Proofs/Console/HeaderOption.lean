import StorageRouting.Console.Header
import StorageRouting.Proofs.Routing.StandardChain
import StorageRouting.Proofs.Text.Trimming

/-
  Header options.  An option is cut at its first "=", wherever
  that stands, and at its first ":" only when it has none.  A
  name and a value with a "=" between them are read as they are;
  behind a ":" they are cut inside a value that has a "=".

  Key definitions include:
    * `Header.IsToken`
    * `HeaderOption.IsInline`
    * `HeaderOption.Spacing`
    * `HeaderOption.Spacing.written`

  Main statements:
    * `HeaderOption.parse_of_cut`
    * `HeaderOption.parse_written`
    * `HeaderOption.parse_cut_in_value`
-/

------------------------------------------------------------
-- Header Names
------------------------------------------------------------

namespace StorageRouting

namespace Header

/- The characters of header names are visible ones of ASCII. -/
theorem toNat_of_isNameChar
    {c : Char}
    (h : isNameChar c = true) : 33 ≤ c.toNat ∧ c.toNat ≤ 126 := by
  have hMarks :
      ∀ d ∈ "!#$%&'*+-.^_|~".toList,
        33 ≤ d.toNat ∧ d.toNat ≤ 126 := by
    simp
  simp only [isNameChar, Bool.or_eq_true, List.contains_iff_mem,
    beq_iff_eq] at h
  rcases h with (hAlphanum | hMark) | hQuote
  · have hIdent : Expression.isIdentChar c = true := by
      simp [Expression.isIdentChar, hAlphanum]
    have hRange := Expression.toNat_of_isIdentChar hIdent
    omega
  · exact hMarks c hMark
  · omega

/- One or more of the characters of header names. -/
def IsToken (name : String) : Prop :=
  name ≠ "" ∧ ∀ c ∈ name.toList, isNameChar c = true

/- Header names are tokens of bounded length. -/
theorem isName_iff
    {name : String} :
    isName name = true ↔
      IsToken name ∧ name.length < Width.count 16 := by
  simp [isName, IsToken, Width.isUnsigned_iff]

variable {name : String}

/- A token has characters. -/
theorem IsToken.toList_ne_nil
    (h : IsToken name) : name.toList ≠ [] := by
  simpa using h.1

/- No character of a token is blank. -/
theorem IsToken.isBlank_eq_false
    (h : IsToken name)
    {c : Char}
    (hc : c ∈ name.toList) : Text.isBlank c = false := by
  have hRange := toNat_of_isNameChar (h.2 c hc)
  exact Text.isBlank_of_visible hRange.1 hRange.2

/- A character that names do not have is in no token. -/
theorem IsToken.not_mem
    (h : IsToken name)
    {c : Char}
    (hc : isNameChar c = false) : c ∉ name.toList := by
  intro hMem
  rw [h.2 c hMem] at hc
  cases hc

end Header

end StorageRouting

------------------------------------------------------------
-- Options in Writing
------------------------------------------------------------

namespace StorageRouting

namespace HeaderOption

/-
  A value on one line: printed characters of ASCII, with blanks
  only inside.
-/
structure IsInline (value : String) : Prop where
  nonempty : value ≠ ""
  printed : ∀ c ∈ value.toList, 32 ≤ c.toNat ∧ c.toNat < 127
  trimmed : Text.IsTrimmed value.toList

/- The blanks around the name and around the value of an option. -/
structure Spacing where
  beforeName : List Char
  behindName : List Char
  beforeValue : List Char
  behindValue : List Char
  blank_beforeName : Text.AllBlank beforeName
  blank_behindName : Text.AllBlank behindName
  blank_beforeValue : Text.AllBlank beforeValue
  blank_behindValue : Text.AllBlank behindValue

namespace Spacing

/- A name with the blanks around it. -/
def aroundName
    (g : Spacing)
    (name : String) : List Char :=
  g.beforeName ++ name.toList ++ g.behindName

/- A value with the blanks around it. -/
def aroundValue
    (g : Spacing)
    (value : String) : List Char :=
  g.beforeValue ++ value.toList ++ g.behindValue

/- An option in writing: a name, a separator and a value. -/
def written
    (g : Spacing)
    (name : String)
    (separator : Char)
    (value : String) : String :=
  String.ofList
    (g.aroundName name ++ separator :: g.aroundValue value)

end Spacing

/- What is read of an option, by where it is cut. -/
theorem parse_of_cut
    {raw : String}
    {before behind : List Char}
    (hCut : cut? raw.toList = some (before, behind))
    (hName : Text.trimChars before ≠ []) :
    parse raw =
      .ok
        (String.ofList (Text.trimChars before),
          String.ofList (Text.trimChars behind)) := by
  have hFull : (Text.trimChars before).isEmpty = false := by
    simpa using hName
  simp [parse, hCut, hFull]

/- An option is cut at its first "=". -/
theorem cut?_equals
    {before : List Char}
    (h : '=' ∉ before)
    (behind : List Char) :
    cut? (before ++ '=' :: behind) = some (before, behind) := by
  have hBefore : ∀ c ∈ before, (c == '=') = false := by
    intro c hc
    simpa using fun hSame : c = '=' => h (hSame ▸ hc)
  rw [cut?, Text.splitFirst_eq_some hBefore rfl]

/- An option without "=" is cut at its first ":". -/
theorem cut?_colon
    {before behind : List Char}
    (hEquals : '=' ∉ before ++ ':' :: behind)
    (hColon : ':' ∉ before) :
    cut? (before ++ ':' :: behind) = some (before, behind) := by
  have hNone :
      ∀ c ∈ before ++ ':' :: behind, (c == '=') = false := by
    intro c hc
    simpa using fun hSame : c = '=' => hEquals (hSame ▸ hc)
  have hBefore : ∀ c ∈ before, (c == ':') = false := by
    intro c hc
    simpa using fun hSame : c = ':' => hColon (hSame ▸ hc)
  rw [cut?, Text.splitFirst_eq_none hNone]
  exact Text.splitFirst_eq_some hBefore rfl behind

variable {name value : String}

/-
  A character that is neither blank nor one of names does not
  stand around a name.
-/
theorem Spacing.not_mem_aroundName
    (g : Spacing)
    (hName : Header.IsToken name)
    {c : Char}
    (hBlank : Text.isBlank c = false)
    (hChar : Header.isNameChar c = false) :
    c ∉ g.aroundName name :=
  Text.not_mem_surrounded g.blank_beforeName g.blank_behindName
    hBlank (hName.not_mem hChar)

/- A name without the blanks around it. -/
theorem Spacing.trimChars_aroundName
    (g : Spacing)
    (hName : Header.IsToken name) :
    Text.trimChars (g.aroundName name) = name.toList := by
  refine
    Text.trimChars_surrounded g.blank_beforeName ⟨?_, ?_⟩
      g.blank_behindName
  · intro c hc
    exact hName.isBlank_eq_false (List.mem_of_mem_head? hc)
  · intro c hc
    exact hName.isBlank_eq_false (List.mem_of_getLast? hc)

/- A value without the blanks around it. -/
theorem Spacing.trimChars_aroundValue
    (g : Spacing)
    (hValue : IsInline value) :
    Text.trimChars (g.aroundValue value) = value.toList :=
  Text.trimChars_surrounded g.blank_beforeValue hValue.trimmed
    g.blank_behindValue

/-
  An option that is cut at its separator is read as its name and
  its value.
-/
theorem parse_of_cut_at_separator
    (g : Spacing)
    (hName : Header.IsToken name)
    (hValue : IsInline value)
    {separator : Char}
    (hCut :
      cut? (g.aroundName name ++ separator :: g.aroundValue value) =
        some (g.aroundName name, g.aroundValue value)) :
    parse (g.written name separator value) = .ok (name, value) := by
  have hTrimmed := g.trimChars_aroundName hName
  rw [parse_of_cut
      (by rw [Spacing.written, String.toList_ofList, hCut])
      (by rw [hTrimmed]; exact hName.toList_ne_nil),
    hTrimmed, g.trimChars_aroundValue hValue, String.ofList_toList,
    String.ofList_toList]

/-
  A name and a value are read as they are, with a "=" between
  them, or with a ":" if the value has no "=".
-/
theorem parse_written
    (g : Spacing)
    (hName : Header.IsToken name)
    (hValue : IsInline value)
    {separator : Char}
    (hSeparator :
      separator = '=' ∨ separator = ':' ∧ '=' ∉ value.toList) :
    parse (g.written name separator value) = .ok (name, value) := by
  have hNoEquals : '=' ∉ g.aroundName name :=
    g.not_mem_aroundName hName rfl rfl
  apply parse_of_cut_at_separator g hName hValue
  rcases hSeparator with rfl | ⟨rfl, hNone⟩
  · exact cut?_equals hNoEquals _
  · have hNoColon : ':' ∉ g.aroundName name :=
      g.not_mem_aroundName hName rfl rfl
    have hNoEquals' : '=' ∉ g.aroundValue value :=
      Text.not_mem_surrounded g.blank_beforeValue
        g.blank_behindValue rfl hNone
    refine cut?_colon ?_ hNoColon
    simp [hNoEquals, hNoEquals']

/-
  Behind a ":" a value with a "=" is cut there: what stands in
  front of it goes to the name, with the ":".
-/
theorem parse_cut_in_value
    (g : Spacing)
    (hName : Header.IsToken name)
    {front back : List Char}
    (hValue : value.toList = front ++ '=' :: back)
    (hFront : '=' ∉ front) :
    parse (g.written name ':' value) =
      .ok
        (String.ofList
            (name.toList ++ g.behindName ++
              ':' :: Text.trimEnd (g.beforeValue ++ front)),
          String.ofList (Text.trimChars back)) := by
  have hNoEquals : '=' ∉ g.aroundName name :=
    g.not_mem_aroundName hName rfl rfl
  have hText :
      (g.written name ':' value).toList =
        (g.aroundName name ++ ':' :: (g.beforeValue ++ front)) ++
          '=' :: (back ++ g.behindValue) := by
    simp [Spacing.written, Spacing.aroundValue, hValue]
  have hCut :
      cut? (g.written name ':' value).toList =
        some
          (g.aroundName name ++ ':' :: (g.beforeValue ++ front),
            back ++ g.behindValue) := by
    rw [hText]
    refine cut?_equals ?_ _
    have hNoBlank : '=' ∉ g.beforeValue := by
      intro hMem
      exact absurd (g.blank_beforeValue _ hMem) (by decide)
    simp [hNoEquals, hNoBlank, hFront]
  have hHead :
      ∀ c ∈ (name.toList ++ g.behindName).head?,
        Text.isBlank c = false := by
    intro c hc
    rw [List.head?_append_of_ne_nil _ hName.toList_ne_nil] at hc
    exact hName.isBlank_eq_false (List.mem_of_mem_head? hc)
  have hBefore :
      Text.trimChars
          (g.aroundName name ++ ':' :: (g.beforeValue ++ front)) =
        name.toList ++ g.behindName ++
          ':' :: Text.trimEnd (g.beforeValue ++ front) := by
    rw [Spacing.aroundName, List.append_assoc, List.append_assoc,
      Text.trimChars_blanks_append g.blank_beforeName,
      ← List.append_assoc, Text.trimChars_append_cons hHead rfl]
  rw [parse_of_cut hCut (by rw [hBefore]; simp), hBefore,
    Text.trimChars_append_blanks _ g.blank_behindValue]

/-
  It is not so that a name and a value are read as they are with
  either separator between them: behind a ":" a value may not
  have a "=".
-/
theorem not_read_with_both_separators :
    ¬ ∀ (g : Spacing) (name value : String) (separator : Char),
        Header.IsToken name → IsInline value →
          separator = '=' ∨ separator = ':' →
            parse (g.written name separator value) =
              .ok (name, value) := by
  intro hAll
  have hValue : IsInline "a=b" :=
    ⟨by decide, by simp,
      ⟨by rintro _ ⟨⟩; rfl, by rintro _ ⟨⟩; rfl⟩⟩
  have hName : Header.IsToken "tenant" :=
    ⟨by decide, List.all_eq_true.mp rfl⟩
  have hSame :=
    hAll ⟨[], [], [], [], nofun, nofun, nofun, nofun⟩ "tenant"
      "a=b" ':' hName hValue (.inr rfl)
  have hRead :
      parse "tenant:a=b" = .ok ("tenant:a", "b") :=
    rfl
  exact absurd (hRead.symm.trans hSame) (by decide)

end HeaderOption

end StorageRouting
