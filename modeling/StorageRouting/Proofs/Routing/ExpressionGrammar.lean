import StorageRouting.Proofs.Number.Decimal
import StorageRouting.Proofs.Routing.StandardChain
import StorageRouting.Proofs.Text.Trimming

/-
  The grammar of path expressions, and what is read.  Every text
  of the grammar is read, as what it spells.  Beyond these only
  texts are read that lack the bracket that closes them.

  Key definitions include:
    * `Expression.IsIndex`
    * `Expression.PathText`
    * `Expression.Spells`

  Main statements:
    * `Expression.path?_of_pathText`
    * `Expression.path?_eq_some_iff`
    * `Expression.pathText_closed_iff`
    * `Expression.body?_eq_some_iff`
    * `Expression.accepts_grammar_and_unclosed`
-/

------------------------------------------------------------
-- The Grammar
------------------------------------------------------------

namespace StorageRouting

namespace Expression

/-
  The text of an index: a decimal number of 64 bits, with blanks
  around it.
-/
def IsIndex
    (cs : List Char)
    (n : Nat) : Prop :=
  Decimal.DenotesUnsigned (Text.trimChars cs) n

/-
  The texts of paths: every segment is a dot and an identifier,
  or an index in brackets.
-/
inductive PathText : List Char → List Segment → Prop where
| nil : PathText [] []
| field
    {name : String}
    {rest : List Char}
    {path : List Segment}
    (hName : IsIdentifier name)
    (hRest : PathText rest path) :
    PathText ('.' :: (name.toList ++ rest)) (.field name :: path)
| index
    {digits rest : List Char}
    {n : Nat}
    {path : List Segment}
    (hOpen : ']' ∉ digits)
    (hIndex : IsIndex digits n)
    (hRest : PathText rest path) :
    PathText ('[' :: (digits ++ ']' :: rest)) (.index n :: path)

/-
  A key spells an expression: behind its mark stand, with blanks
  around them, an identifier and the text of a path.
-/
def Spells
    (key : String)
    (e : Expression) : Prop :=
  IsIdentifier e.root ∧
    ∃ cs rest,
      key.toList = '#' :: cs ∧
        Text.trimChars cs = e.root.toList ++ rest ∧
        PathText rest e.path

/- The text of an index is read as the index. -/
theorem index?_eq_some_iff
    {cs : List Char}
    {n : Nat} :
    index? cs = some n ↔ IsIndex cs n :=
  Decimal.unsigned64?_eq_some_iff

/- Blanks behind the text of an index do not count. -/
theorem isIndex_append_blanks_iff
    {cs blanks : List Char}
    {n : Nat}
    (h : Text.AllBlank blanks) :
    IsIndex (cs ++ blanks) n ↔ IsIndex cs n := by
  rw [IsIndex, IsIndex, Text.trimChars_append_blanks _ h]

/- One path text behind another. -/
theorem PathText.append
    {cs ds : List Char}
    {path rest : List Segment}
    (h : PathText cs path)
    (hRest : PathText ds rest) :
    PathText (cs ++ ds) (path ++ rest) := by
  induction h with
  | nil => exact hRest
  | field hName _ ih =>
      simpa using PathText.field hName ih
  | index hOpen hIndex _ ih =>
      simpa using PathText.index hOpen hIndex ih

/- A path text that is not empty starts with a dot or a bracket. -/
theorem PathText.head_cases
    {cs : List Char}
    {path : List Segment}
    (h : PathText cs path) :
    ∀ c ∈ cs.head?, c = '.' ∨ c = '[' := by
  cases h with
  | nil => simp
  | field => simp
  | index => simp

end Expression

end StorageRouting

------------------------------------------------------------
-- Reading Segments
------------------------------------------------------------

namespace StorageRouting

namespace Expression

variable {rest digits : List Char} {path : List Segment}

/- An identifier ends where no character of one follows. -/
theorem takeWhile_identifier
    {name : String}
    (hName : IsIdentifier name)
    (hEnd : ∀ c ∈ rest.head?, isIdentChar c = false) :
    (name.toList ++ rest).takeWhile isIdentChar = name.toList ∧
      (name.toList ++ rest).dropWhile isIdentChar = rest := by
  cases rest with
  | nil =>
      rw [List.append_nil]
      exact
        ⟨List.takeWhile_eq_self_iff.mpr hName.2,
          List.dropWhile_eq_nil_iff.mpr hName.2⟩
  | cons c rest =>
      have hStop : ¬ isIdentChar c = true := by
        simp [hEnd c rfl]
      exact
        ⟨by
          rw [List.takeWhile_append_of_pos hName.2,
            List.takeWhile_cons_of_neg hStop, List.append_nil],
        by
          rw [List.dropWhile_append_of_pos hName.2,
            List.dropWhile_cons_of_neg hStop]⟩

/- A field is read up to the end of its name. -/
theorem path?_field
    {name : String}
    (hName : IsIdentifier name)
    (hEnd : ∀ c ∈ rest.head?, isIdentChar c = false) :
    path? ('.' :: (name.toList ++ rest)) =
      (path? rest).map (.field name :: ·) := by
  have hFull : name.toList.isEmpty = false := by
    simpa using hName.1
  rcases takeWhile_identifier hName hEnd with ⟨hTake, hDrop⟩
  rw [path?]
  simp only [hTake, hDrop, hFull, List.drop_zero,
    String.ofList_toList, Bool.false_eq_true, if_false]

/- A text without closing brackets ends at the first one. -/
theorem takeWhile_unclosed
    (h : ']' ∉ digits) :
    digits.takeWhile (· ≠ ']') = digits ∧
      digits.dropWhile (· ≠ ']') = [] := by
  have hAll : ∀ c ∈ digits, decide (c ≠ ']') = true := by
    intro c hc
    have hNe : c ≠ ']' := by
      rintro rfl
      exact h hc
    simpa using hNe
  exact
    ⟨List.takeWhile_eq_self_iff.mpr hAll,
      List.dropWhile_eq_nil_iff.mpr hAll⟩

/- An index is read up to its closing bracket. -/
theorem path?_index
    {n : Nat}
    (hOpen : ']' ∉ digits)
    (hIndex : IsIndex digits n) :
    path? ('[' :: (digits ++ ']' :: rest)) =
      (path? rest).map (.index n :: ·) := by
  rcases takeWhile_unclosed hOpen with ⟨hTake, hDrop⟩
  have hAll := List.takeWhile_eq_self_iff.mp hTake
  rw [path?, List.takeWhile_append_of_pos hAll,
    List.dropWhile_append_of_pos hAll]
  simp [index?_eq_some_iff.mpr hIndex]

/- An index is also read when nothing closes it. -/
theorem path?_unclosed
    {n : Nat}
    (hOpen : ']' ∉ digits)
    (hIndex : IsIndex digits n) :
    path? ('[' :: digits) = some [.index n] := by
  rcases takeWhile_unclosed hOpen with ⟨hTake, hDrop⟩
  rw [path?, hTake, hDrop]
  simp [index?_eq_some_iff.mpr hIndex, path?]

/- No character of an identifier starts a segment. -/
theorem PathText.head_end
    {cs : List Char}
    (h : PathText cs path) :
    ∀ c ∈ cs.head?, isIdentChar c = false := by
  intro c hc
  rcases h.head_cases c hc with rfl | rfl <;> rfl

/- Every path text is read as its path. -/
theorem path?_of_pathText
    {cs : List Char}
    (h : PathText cs path) : path? cs = some path := by
  induction h with
  | nil => rw [path?]
  | field hName hRest ih =>
      rw [path?_field hName hRest.head_end, ih, Option.map_some]
  | index hOpen hIndex _ ih =>
      rw [path?_index hOpen hIndex, ih, Option.map_some]

end Expression

end StorageRouting

------------------------------------------------------------
-- Texts That Lack a Bracket
------------------------------------------------------------

namespace StorageRouting

namespace Expression

variable {cs : List Char} {path : List Segment}

/-
  A text that ends in an index without its closing bracket, and
  has a path text in front of it.
-/
def Unclosed
    (cs : List Char)
    (path : List Segment) : Prop :=
  ∃ front digits before n,
    cs = front ++ '[' :: digits ∧
      PathText front before ∧
      ']' ∉ digits ∧ IsIndex digits n ∧
      path = before ++ [.index n]

/- One more segment in front of an unclosed text. -/
theorem Unclosed.append
    {ds : List Char}
    {before : List Segment}
    (hFront : PathText ds before)
    (h : Unclosed cs path) : Unclosed (ds ++ cs) (before ++ path) := by
  rcases h with
    ⟨front, digits, middle, n, rfl, hMiddle, hOpen, hIndex, rfl⟩
  exact
    ⟨ds ++ front, digits, before ++ middle, n, by simp,
      hFront.append hMiddle, hOpen, hIndex, by simp⟩

/- A field alone. -/
theorem pathText_field
    {name : String}
    (hName : IsIdentifier name) :
    PathText ('.' :: name.toList) [.field name] := by
  simpa using PathText.field hName .nil

/- An index alone. -/
theorem pathText_index
    {digits : List Char}
    {n : Nat}
    (hOpen : ']' ∉ digits)
    (hIndex : IsIndex digits n) :
    PathText ('[' :: (digits ++ [']'])) [.index n] :=
  PathText.index hOpen hIndex .nil

/-
  A closing bracket makes a path text exactly of the texts that
  lack it.
-/
theorem pathText_closed_iff :
    PathText (cs ++ [']']) path ↔ Unclosed cs path := by
  constructor
  · intro h
    generalize hText : cs ++ [']'] = text at h
    induction h generalizing cs with
    | nil => simp at hText
    | @field name rest path hName hRest ih =>
        rcases List.eq_nil_or_concat rest with rfl | ⟨front, c, rfl⟩
        · -- the bracket would be a character of the name
          have hLast : ']' ∈ name.toList := by
            have hMem : ']' ∈ '.' :: (name.toList ++ []) :=
              hText ▸ List.mem_append_right cs List.mem_cons_self
            simpa using hMem
          exact absurd (hName.2 ']' hLast) (by decide)
        · have hParts :
              cs ++ [']'] =
                ('.' :: (name.toList ++ front)) ++ [c] := by
            simpa using hText
          obtain ⟨rfl, hLast⟩ := List.append_inj' hParts rfl
          cases hLast
          have hRest : Unclosed front path := ih (by simp)
          exact hRest.append (pathText_field hName)
    | @index digits rest n path hOpen hIndex hRest ih =>
        rcases List.eq_nil_or_concat rest with rfl | ⟨front, c, rfl⟩
        · have hParts : cs ++ [']'] = ('[' :: digits) ++ [']'] := by
            simpa using hText
          obtain ⟨rfl, _⟩ := List.append_inj' hParts rfl
          cases hRest
          exact ⟨[], digits, [], n, rfl, .nil, hOpen, hIndex, rfl⟩
        · have hParts :
              cs ++ [']'] =
                ('[' :: (digits ++ ']' :: front)) ++ [c] := by
            simpa using hText
          obtain ⟨rfl, hLast⟩ := List.append_inj' hParts rfl
          cases hLast
          have hRest : Unclosed front path := ih (by simp)
          have hAll := hRest.append (pathText_index hOpen hIndex)
          simpa using hAll
  · rintro
      ⟨front, digits, before, n, rfl, hFront, hOpen, hIndex, rfl⟩
    simpa using hFront.append (pathText_index hOpen hIndex)

/- No character of an identifier starts an unclosed text. -/
theorem Unclosed.head_end
    (h : Unclosed cs path) :
    ∀ c ∈ cs.head?, isIdentChar c = false := by
  have hClosed := (pathText_closed_iff.mpr h).head_end
  cases cs with
  | nil => simp
  | cons c rest => exact hClosed

/- An unclosed text is read as if it were closed. -/
theorem path?_of_unclosed
    (h : Unclosed cs path) : path? cs = some path := by
  rcases h with
    ⟨front, digits, before, n, rfl, hFront, hOpen, hIndex, rfl⟩
  induction hFront with
  | nil => exact path?_unclosed hOpen hIndex
  | @field name rest path hName hRest ih =>
      have hEnd :=
        Unclosed.head_end
          ⟨rest, digits, path, n, rfl, hRest, hOpen, hIndex, rfl⟩
      have hRead := path?_field hName hEnd
      rw [ih, Option.map_some] at hRead
      simpa using hRead
  | @index others rest k path hOthers hOther hRest ih =>
      have hRead :
          path? ('[' :: (others ++ ']' :: (rest ++ '[' :: digits))) =
            (path? (rest ++ '[' :: digits)).map (.index k :: ·) :=
        path?_index hOthers hOther
      rw [ih, Option.map_some] at hRead
      simpa using hRead

/- The characters of an identifier at the start of a text. -/
theorem isIdentifier_takeWhile
    {cs : List Char}
    (h : ¬ (cs.takeWhile isIdentChar).isEmpty = true) :
    IsIdentifier (String.ofList (cs.takeWhile isIdentChar)) := by
  refine ⟨?_, ?_⟩
  · intro hEmpty
    apply h
    rw [List.isEmpty_iff,
      ← String.toList_ofList (l := cs.takeWhile isIdentChar),
      hEmpty, String.toList_empty]
  · intro c hc
    rw [String.toList_ofList] at hc
    exact List.mem_takeWhile_imp hc

/- What is read is a path text, or an unclosed one. -/
theorem pathText_or_unclosed_of_path?
    (h : path? cs = some path) :
    PathText cs path ∨ Unclosed cs path := by
  induction cs using path?.induct generalizing path with
  | case1 =>
      rw [path?] at h
      cases h
      exact .inl .nil
  | case2 cs name =>
      rename_i hEmpty
      rw [path?, if_pos hEmpty] at h
      cases h
  | case3 cs name =>
      rename_i hFull ih
      have hName := isIdentifier_takeWhile hFull
      have hSplit :
          cs.takeWhile isIdentChar ++ cs.dropWhile isIdentChar =
            cs :=
        List.takeWhile_append_dropWhile
      rw [path?, if_neg hFull, Option.map_eq_some_iff] at h
      rcases h with ⟨rest, hRest, rfl⟩
      rcases ih hRest with hClosed | hOpen
      · have hAll := PathText.field hName hClosed
        rw [String.toList_ofList, List.drop_zero, hSplit] at hAll
        exact .inl hAll
      · have hAll := hOpen.append (pathText_field hName)
        rw [String.toList_ofList, List.drop_zero, List.cons_append,
          hSplit] at hAll
        exact .inr hAll
  | case4 cs hNone =>
      rw [path?, hNone] at h
      cases h
  | case5 cs n hIndex ih =>
      have hDigits := index?_eq_some_iff.mp hIndex
      have hOpen : ']' ∉ cs.takeWhile (· ≠ ']') := by
        intro hMem
        simpa using List.mem_takeWhile_imp hMem
      rw [path?, hIndex, Option.map_eq_some_iff] at h
      rcases h with ⟨rest, hRest, rfl⟩
      cases hBehind : cs.dropWhile (· ≠ ']') with
      | nil =>
          have hAll : cs.takeWhile (· ≠ ']') = cs :=
            List.takeWhile_eq_self_iff.mpr
              (List.dropWhile_eq_nil_iff.mp hBehind)
          rw [hAll] at hOpen hDigits
          rw [hBehind, List.drop_nil, path?] at hRest
          cases hRest
          exact
            .inr ⟨[], cs, [], n, rfl, .nil, hOpen, hDigits, rfl⟩
      | cons c behind =>
          have hBracket : c = ']' := by
            have hHead := List.head?_dropWhile_not (· ≠ ']') cs
            rw [hBehind] at hHead
            simpa using hHead
          subst hBracket
          have hSplit :
              cs.takeWhile (· ≠ ']') ++ ']' :: behind = cs := by
            rw [← hBehind]
            exact List.takeWhile_append_dropWhile
          rw [hBehind, List.drop_one, List.tail_cons] at hRest ih
          rcases ih hRest with hClosed | hUnclosed
          · have hText := PathText.index hOpen hDigits hClosed
            rw [hSplit] at hText
            exact .inl hText
          · have hText :=
              hUnclosed.append (pathText_index hOpen hDigits)
            rw [List.cons_append, List.append_assoc,
              List.singleton_append, hSplit] at hText
            exact .inr hText
  | case6 cs hEmpty hDot hBracket =>
      rw [path?] at h
      · cases h
      all_goals assumption

/- What is read: path texts, and those that lack a bracket. -/
theorem path?_eq_some_iff :
    path? cs = some path ↔ PathText cs path ∨ Unclosed cs path :=
  ⟨pathText_or_unclosed_of_path?,
    fun h => h.elim path?_of_pathText path?_of_unclosed⟩

end Expression

end StorageRouting

------------------------------------------------------------
-- Reading Keys
------------------------------------------------------------

namespace StorageRouting

namespace Expression

variable {cs : List Char} {path : List Segment} {e : Expression}

/- What is read of a text without blanks around it. -/
theorem body?_eq_some_iff :
    body? cs = some e ↔
      IsIdentifier e.root ∧
        ∃ rest, cs = e.root.toList ++ rest ∧
          (PathText rest e.path ∨ Unclosed rest e.path) := by
  simp only [body?]
  constructor
  · intro h
    split at h
    · cases h
    · rename_i hFull
      rcases Option.map_eq_some_iff.mp h with ⟨path, hPath, rfl⟩
      refine
        ⟨isIdentifier_takeWhile hFull,
          cs.dropWhile isIdentChar, ?_, path?_eq_some_iff.mp hPath⟩
      rw [String.toList_ofList]
      exact List.takeWhile_append_dropWhile.symm
  · rintro ⟨hRoot, rest, rfl, hRest⟩
    have hEnd : ∀ c ∈ rest.head?, isIdentChar c = false :=
      hRest.elim PathText.head_end Unclosed.head_end
    have hFull : e.root.toList.isEmpty = false := by
      simpa using hRoot.1
    rcases takeWhile_identifier hRoot hEnd with ⟨hTake, hDrop⟩
    simp [hTake, hDrop, hFull, path?_eq_some_iff.mpr hRest]

/- Keys are read behind their mark, and without blanks around. -/
theorem parse?_eq_some_iff
    {key : String} :
    parse? key = some e ↔
      ∃ cs, key.toList = '#' :: cs ∧
        body? (Text.trimChars cs) = some e := by
  unfold parse?
  constructor
  · intro h
    split at h
    · rename_i cs hKey
      exact ⟨cs, hKey, h⟩
    · cases h
  · rintro ⟨cs, hKey, h⟩
    rw [hKey]
    exact h

/- A key of the grammar is read as what it spells. -/
theorem parse?_of_spells
    {key : String}
    (h : Spells key e) : parse? key = some e := by
  rcases h with ⟨hRoot, cs, rest, hKey, hBody, hPath⟩
  exact
    parse?_eq_some_iff.mpr
      ⟨cs, hKey,
        body?_eq_some_iff.mpr ⟨hRoot, rest, hBody, .inl hPath⟩⟩

/-
  An unclosed text keeps what stands in front of its last
  bracket when its end is trimmed.
-/
theorem Unclosed.trimEnd_append
    (h : Unclosed cs path)
    (front : List Char) :
    Text.trimEnd (front ++ cs) = front ++ Text.trimEnd cs := by
  rcases h with ⟨before, digits, _, _, rfl, _⟩
  rw [← List.append_assoc, Text.trimEnd_append_cons _ _ rfl,
    Text.trimEnd_append_cons _ _ rfl, List.append_assoc]

/- Blanks behind an unclosed text belong to its index. -/
theorem Unclosed.append_blanks
    (h : Unclosed cs path)
    {blanks : List Char}
    (hBlanks : Text.AllBlank blanks) :
    Unclosed (cs ++ blanks) path := by
  rcases h with
    ⟨front, digits, before, n, rfl, hFront, hOpen, hIndex, rfl⟩
  refine
    ⟨front, digits ++ blanks, before, n, by simp, hFront, ?_,
      (isIndex_append_blanks_iff hBlanks).mpr hIndex, rfl⟩
  rw [List.mem_append, not_or]
  exact ⟨hOpen, fun hMem => absurd (hBlanks ']' hMem) (by decide)⟩

/- An unclosed text stays unclosed when its end is trimmed. -/
theorem Unclosed.trimEnd
    (h : Unclosed cs path) : Unclosed (Text.trimEnd cs) path := by
  rcases h with
    ⟨front, digits, before, n, rfl, hFront, hOpen, hIndex, rfl⟩
  rcases Text.exists_blanks_of_trimEnd digits with
    ⟨blanks, hBlanks, hDigits⟩
  refine
    ⟨front, Text.trimEnd digits, before, n,
      Text.trimEnd_append_cons _ _ rfl, hFront, ?_, ?_, rfl⟩
  · intro hMem
    apply hOpen
    rw [hDigits]
    exact List.mem_append_left _ hMem
  · rw [hDigits] at hIndex
    exact (isIndex_append_blanks_iff hBlanks).mp hIndex

/-
  A closing bracket makes a key spell an expression exactly if
  behind its mark stand, with blanks around them, an identifier
  and an unclosed text.
-/
theorem spells_closed_iff
    {key : String} :
    Spells (key ++ "]") e ↔
      IsIdentifier e.root ∧
        ∃ cs rest,
          key.toList = '#' :: cs ∧
            Text.trimChars cs = e.root.toList ++ rest ∧
            Unclosed rest e.path := by
  have hKey : (key ++ "]").toList = key.toList ++ [']'] :=
    String.toList_append
  constructor
  · rintro ⟨hRoot, cs, rest, hText, hBody, hPath⟩
    refine ⟨hRoot, ?_⟩
    rw [hKey] at hText
    cases hChars : key.toList with
    | nil =>
        rw [hChars] at hText
        cases hText
    | cons c behind =>
        rw [hChars, List.cons_append] at hText
        cases hText
        rw [Text.trimChars_concat _ (by decide)] at hBody
        rcases List.eq_nil_or_concat rest with rfl | ⟨front, c, rfl⟩
        · -- the bracket would be a character of the root
          have hLast : ']' ∈ e.root.toList := by
            rw [List.append_nil] at hBody
            rw [← hBody]
            exact List.mem_append_right _ List.mem_cons_self
          exact absurd (hRoot.2 ']' hLast) (by decide)
        · rw [List.concat_eq_append] at hBody hPath
          rw [← List.append_assoc] at hBody
          obtain ⟨hStart, hLast⟩ := List.append_inj' hBody rfl
          cases hLast
          have hFront := pathText_closed_iff.mp hPath
          refine
            ⟨behind, Text.trimEnd front, rfl, ?_, hFront.trimEnd⟩
          rw [Text.trimChars, hStart, hFront.trimEnd_append]
  · rintro ⟨hRoot, cs, rest, hText, hBody, hPath⟩
    rcases Text.exists_blanks_of_trimEnd (Text.trimStart cs) with
      ⟨blanks, hBlanks, hStart⟩
    refine
      ⟨hRoot, cs ++ [']'], rest ++ blanks ++ [']'], ?_, ?_,
        pathText_closed_iff.mpr (hPath.append_blanks hBlanks)⟩
    · rw [hKey, hText, List.cons_append]
    · rw [Text.trimChars] at hBody
      rw [Text.trimChars_concat _ (by decide), hStart, hBody]
      simp only [List.append_assoc]

/-
  What is read as an expression: every key of the grammar, as
  what it spells, and every key that a closing bracket at its
  end makes one of the grammar, as what it spells then.
-/
theorem accepts_grammar_and_unclosed
    (key : String)
    (e : Expression) :
    parse? key = some e ↔ Spells key e ∨ Spells (key ++ "]") e := by
  rw [parse?_eq_some_iff, spells_closed_iff, Spells]
  simp only [body?_eq_some_iff]
  constructor
  · rintro ⟨cs, hKey, hRoot, rest, hBody, hClosed | hOpen⟩
    · exact .inl ⟨hRoot, cs, rest, hKey, hBody, hClosed⟩
    · exact .inr ⟨hRoot, cs, rest, hKey, hBody, hOpen⟩
  · rintro
      (⟨hRoot, cs, rest, hKey, hBody, hClosed⟩ |
        ⟨hRoot, cs, rest, hKey, hBody, hOpen⟩)
    · exact ⟨cs, hKey, hRoot, rest, hBody, .inl hClosed⟩
    · exact ⟨cs, hKey, hRoot, rest, hBody, .inr hOpen⟩

/- In a path text that opens a bracket one is closed. -/
theorem PathText.closing_mem
    (h : PathText cs path)
    (hBracket : '[' ∈ cs) : ']' ∈ cs := by
  induction h with
  | nil => cases hBracket
  | @field name rest path hName _ ih =>
      have hNoName : '[' ∉ name.toList :=
        fun hMem => absurd (hName.2 '[' hMem) (by decide)
      have hRest : '[' ∈ rest := by
        simpa [hNoName] using hBracket
      simp [ih hRest]
  | index => simp

/- A key of the grammar that opens a bracket closes one. -/
theorem Spells.closing_mem
    {key : String}
    (h : Spells key e)
    (hBracket : '[' ∈ Text.trimChars key.toList.tail) :
    ']' ∈ Text.trimChars key.toList.tail := by
  rcases h with ⟨hRoot, cs, rest, hKey, hBody, hPath⟩
  have hNoRoot : '[' ∉ e.root.toList :=
    fun hMem => absurd (hRoot.2 '[' hMem) (by decide)
  rw [hKey, List.tail_cons, hBody, List.mem_append] at hBracket ⊢
  rcases hBracket with hMem | hMem
  · exact absurd hMem hNoRoot
  · exact .inr (hPath.closing_mem hMem)

/-
  It is not so that only keys of the grammar are read: an index
  at the end of a key need not be closed.
-/
theorem not_only_grammar_accepted :
    ¬ ∀ key : String,
        (∃ e, parse? key = some e) ↔ ∃ e, Spells key e := by
  intro hAll
  have hOpen : Unclosed "[1".toList [.index 1] := by
    refine ⟨[], ['1'], [], 1, rfl, .nil, by decide, .inl ?_, rfl⟩
    exact ⟨by decide, List.all_eq_true.mp rfl, rfl, by decide⟩
  have hRead : parse? "#user[1" = some ⟨"user", [.index 1]⟩ :=
    parse?_eq_some_iff.mpr
      ⟨"user[1".toList, rfl,
        body?_eq_some_iff.mpr
          ⟨⟨by decide, List.all_eq_true.mp rfl⟩, "[1".toList, rfl,
            .inr hOpen⟩⟩
  rcases (hAll "#user[1").mp ⟨_, hRead⟩ with ⟨e, hSpells⟩
  exact absurd (hSpells.closing_mem (by decide)) (by decide)

end Expression

end StorageRouting
