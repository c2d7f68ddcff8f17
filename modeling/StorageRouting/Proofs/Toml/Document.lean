import StorageRouting.Document.Toml.Printer
import StorageRouting.Document.Toml.Statement
import StorageRouting.Proofs.Toml.Quoted

/-
  A document of plain fields and of tables with plain fields is
  read back as it was written.

  Key definitions include:
    * `Toml.EndsKey`
    * `Toml.Reads`
    * `Value.IsPlain`

  Main statements:
    * `Toml.readKey?_keyText`
    * `Toml.Reads.statements`
    * `Toml.read?_render`
-/

------------------------------------------------------------
-- Keys
------------------------------------------------------------

namespace StorageRouting

namespace Toml

/- Text in which a key can be told from its end. -/
def EndsKey (rest : List Char) : Prop :=
  Unquoted rest ∧ ∀ c ∈ rest.head?, isKeyChar c = false

/- A character with which a key can start. -/
def StartsKey (c : Char) : Prop :=
  isKeyChar c = true ∨ c = '"' ∨ c = '\''

/- A key is bare, or written on one line in a form that suits it. -/
theorem keyText_cases (k : String) :
    (keyText k = k ∧ k.toList ≠ [] ∧ k.toList.all isKeyChar = true) ∨
    ∃ form : Form,
      keyText k = written form k.toList ∧
      form.isMultiLine = false ∧ form.Suits k.toList := by
  unfold keyText
  dsimp only
  split
  · rename_i h
    rw [Bool.and_eq_true, Bool.not_eq_true',
      List.isEmpty_eq_false_iff] at h
    exact Or.inl ⟨rfl, h.1, h.2⟩
  split
  · exact Or.inr ⟨.basic, rfl, rfl, trivial⟩
  split
  · rename_i h
    refine Or.inr ⟨.literal, rfl, rfl, ?_⟩
    simp only [Traits.ofText, Bool.and_eq_true, Bool.not_eq_true',
      Bool.or_eq_false_iff, beq_iff_eq, List.any_eq_false] at h
    intro c hc
    refine ⟨ne_of_longestRun_eq_zero h.2 hc, ?_⟩
    rw [Bool.eq_false_iff]
    intro hForbidden
    have hClear := Bool.eq_false_iff.mpr (h.1.1 c hc)
    have hLine := isForbidden_of_not_control hClear hForbidden
    rw [hLine] at hc
    have hNone := h.1.2
    simp [hc] at hNone
  · exact Or.inr ⟨.basic, rfl, rfl, trivial⟩

/- A key that is written starts like one. -/
theorem exists_startsKey (k : String) :
    ∃ c cs, (keyText k).toList = c :: cs ∧ StartsKey c := by
  rcases keyText_cases k with ⟨hText, hSome, hKey⟩ | ⟨form, hText, _⟩
  · rw [hText]
    rcases List.exists_cons_of_ne_nil hSome with ⟨c, cs, hList⟩
    rw [hList, List.all_cons, Bool.and_eq_true] at hKey
    exact ⟨c, cs, hList, Or.inl hKey.1⟩
  · rw [hText]
    rcases head?_written form k.toList with ⟨more, hMore | hMore⟩
    · exact ⟨_, _, hMore, Or.inr (Or.inl rfl)⟩
    · exact ⟨_, _, hMore, Or.inr (Or.inr rfl)⟩

/- A key in quotes is read as a string on one line. -/
theorem readKey?_eq_readShort?
    {q : Char}
    {cs : List Char}
    (hQuote : q = '"' ∨ q = '\'')
    (hDouble : ∀ more, q :: cs ≠ '"' :: '"' :: '"' :: more)
    (hSingle : ∀ more, q :: cs ≠ '\'' :: '\'' :: '\'' :: more) :
    readKey? (q :: cs) = readShort? (q :: cs) := by
  unfold readKey?
  split
  · rename_i hSame
    exact absurd hSame (hDouble _)
  · rename_i hSame
    exact absurd hSame (hSingle _)
  · rfl
  · rfl
  · rename_i hNotDouble hNotSingle
    rcases hQuote with rfl | rfl
    · exact absurd rfl (hNotDouble cs)
    · exact absurd rfl (hNotSingle cs)

/- A bare key is read up to its end. -/
theorem readKey?_bare
    {key rest : List Char}
    (hSome : key ≠ [])
    (hKey : key.all isKeyChar = true)
    (hRest : ∀ c ∈ rest.head?, isKeyChar c = false) :
    readKey? (key ++ rest) = some (String.ofList key, rest) := by
  have hAll : ∀ c ∈ key, isKeyChar c = true := List.all_eq_true.mp hKey
  have hTake : rest.takeWhile isKeyChar = [] := by
    cases rest with
    | nil => rfl
    | cons c rest => simp [hRest c rfl]
  have hDrop : rest.dropWhile isKeyChar = rest := by
    cases rest with
    | nil => rfl
    | cons c rest => simp [hRest c rfl]
  have hQuoted :
      ∀ {q cs}, q = '"' ∨ q = '\'' → key ++ rest ≠ q :: cs := by
    intro q cs hQuote hSame
    rcases List.exists_cons_of_ne_nil hSome with ⟨c, more, rfl⟩
    have hHead := hAll c List.mem_cons_self
    rw [(List.cons.inj hSame).1] at hHead
    rcases hQuote with rfl | rfl
    · exact absurd hHead (by decide)
    · exact absurd hHead (by decide)
  unfold readKey?
  split
  · rename_i hSame
    exact absurd hSame (hQuoted (Or.inl rfl))
  · rename_i hSame
    exact absurd hSame (hQuoted (Or.inr rfl))
  · rename_i hSame
    exact absurd hSame (hQuoted (Or.inl rfl))
  · rename_i hSame
    exact absurd hSame (hQuoted (Or.inr rfl))
  · rw [List.takeWhile_append_of_pos hAll,
      List.dropWhile_append_of_pos hAll, hTake, hDrop,
      List.append_nil]
    have hFull : key.isEmpty = false := by simpa using hSome
    simp [hFull]

/- Every key that is written is read back. -/
theorem readKey?_keyText
    (k : String)
    {rest : List Char}
    (hRest : EndsKey rest) :
    readKey? ((keyText k).toList ++ rest) = some (k, rest) := by
  rcases keyText_cases k with
    ⟨hText, hSome, hKey⟩ | ⟨form, hText, hLine, hSuits⟩
  · rw [hText, readKey?_bare hSome hKey hRest.2, String.ofList_toList]
  · rcases readShort?_written hLine hSuits hRest.1 with
      ⟨hDouble, hSingle, hRead⟩
    rw [String.ofList_toList] at hRead
    rw [hText]
    rcases head?_written form k.toList with ⟨more, hMore | hMore⟩
    · rw [hMore, List.cons_append] at hDouble hSingle hRead ⊢
      rw [readKey?_eq_readShort? (Or.inl rfl) hDouble hSingle, hRead]
    · rw [hMore, List.cons_append] at hDouble hSingle hRead ⊢
      rw [readKey?_eq_readShort? (Or.inr rfl) hDouble hSingle, hRead]

end Toml

end StorageRouting

------------------------------------------------------------
-- Paths
------------------------------------------------------------

namespace StorageRouting

namespace Toml

theorem skipSpace_cons
    {c : Char}
    (h : isSpace c = false)
    (cs : List Char) : skipSpace (c :: cs) = c :: cs := by
  simp [skipSpace, h]

/- A character with which a key starts is no blank and no mark. -/
theorem StartsKey.ne
    {c d : Char}
    (h : StartsKey c)
    (hKey : isKeyChar d = false)
    (hDouble : d ≠ '"')
    (hSingle : d ≠ '\'') : c ≠ d := by
  rintro rfl
  rcases h with h | h | h
  · rw [hKey] at h
    cases h
  · exact hDouble h
  · exact hSingle h

theorem StartsKey.isSpace_eq
    {c : Char}
    (h : StartsKey c) : isSpace c = false := by
  have hBlank : c ≠ ' ' := h.ne (by decide) (by decide) (by decide)
  have hTab : c ≠ '\t' := h.ne (by decide) (by decide) (by decide)
  simp [isSpace, hBlank, hTab]

theorem skipSpace_keyText
    (k : String)
    (rest : List Char) :
    skipSpace ((keyText k).toList ++ rest) =
      (keyText k).toList ++ rest := by
  rcases exists_startsKey k with ⟨c, cs, hText, hStart⟩
  rw [hText, List.cons_append]
  exact skipSpace_cons hStart.isSpace_eq _

/- The text of a path with parents: the first one, and the rest. -/
theorem toList_pathText_cons
    (k : String)
    (parents : List String)
    (key : String) :
    (pathText (k :: (parents ++ [key]))).toList =
      (keyText k).toList ++ '.' :: (pathText (parents ++ [key])).toList := by
  unfold pathText
  rw [List.map_cons]
  cases hTail : (parents ++ [key]).map keyText with
  | nil => simp at hTail
  | cons t ts => simp [Text.joinWith]

theorem pathText_singleton (key : String) :
    pathText [key] = keyText key :=
  rfl

/- The text of a path starts like a key. -/
theorem exists_startsKey_path
    (parents : List String)
    (key : String) :
    ∃ c cs,
      (pathText (parents ++ [key])).toList = c :: cs ∧
      StartsKey c := by
  cases parents with
  | nil => exact exists_startsKey key
  | cons k parents =>
      rcases exists_startsKey k with ⟨c, cs, hText, hStart⟩
      rw [List.cons_append, toList_pathText_cons, hText]
      exact ⟨c, _, rfl, hStart⟩

theorem length_le_pathText
    (parents : List String)
    (key : String) :
    parents.length ≤ (pathText (parents ++ [key])).toList.length := by
  induction parents with
  | nil => exact Nat.zero_le _
  | cons k parents ih =>
      rw [List.cons_append, toList_pathText_cons, List.length_append,
        List.length_cons, List.length_cons]
      omega

/- A path that is written is read back, after its parents. -/
theorem readKeyPath?_pathText
    {rest : List Char}
    (hRest : EndsKey rest)
    (hDot : (skipSpace rest).head? ≠ some '.')
    (parents : List String)
    (key : String)
    (earlier : List String)
    {fuel : Nat}
    (hFuel : parents.length < fuel) :
    readKeyPath? fuel earlier
        ((pathText (parents ++ [key])).toList ++ rest) =
      some (⟨earlier ++ parents, key⟩, skipSpace rest) := by
  induction parents generalizing earlier fuel with
  | nil =>
      cases fuel with
      | zero => exact absurd hFuel (Nat.not_lt_zero _)
      | succ fuel =>
          rw [List.nil_append, pathText_singleton, readKeyPath?,
            skipSpace_keyText, readKey?_keyText key hRest]
          simp only [Option.bind_eq_bind, Option.bind_some]
          split
          · rename_i hSame
            rw [hSame] at hDot
            exact absurd rfl hDot
          · rw [List.append_nil]
  | cons k parents ih =>
      cases fuel with
      | zero => exact absurd hFuel (Nat.not_lt_zero _)
      | succ fuel =>
          have hEnds :
              EndsKey
                ('.' ::
                  ((pathText (parents ++ [key])).toList ++ rest)) := by
            refine ⟨⟨by simp, by simp⟩, ?_⟩
            intro c hc
            cases hc
            decide
          have hNext :
              skipSpace
                  ('.' ::
                    ((pathText (parents ++ [key])).toList ++ rest)) =
                '.' ::
                  ((pathText (parents ++ [key])).toList ++ rest) :=
            skipSpace_cons (by decide) _
          rw [List.cons_append, toList_pathText_cons,
            List.append_assoc, List.cons_append, readKeyPath?,
            skipSpace_keyText, readKey?_keyText k hEnds]
          simp only [Option.bind_eq_bind, Option.bind_some, hNext]
          rw [ih _ (Nat.lt_of_succ_lt_succ hFuel), List.append_assoc,
            List.singleton_append]

theorem readPath?_pathText
    {rest : List Char}
    (hRest : EndsKey rest)
    (hDot : (skipSpace rest).head? ≠ some '.')
    (parents : List String)
    (key : String) :
    readPath? ((pathText (parents ++ [key])).toList ++ rest) =
      some (⟨parents, key⟩, skipSpace rest) := by
  have hLength := length_le_pathText parents key
  apply readKeyPath?_pathText hRest hDot parents key []
  rw [List.length_append]
  omega

end Toml

end StorageRouting

------------------------------------------------------------
-- Plain Values
------------------------------------------------------------

namespace StorageRouting

/- A string or a truth value. -/
inductive Value.IsPlain : Value → Prop
| string (s : String) : IsPlain (.string s)
| bool (b : Bool) : IsPlain (.bool b)

@[simp] theorem Value.isPlain_string (s : String) :
    (Value.string s).IsPlain :=
  .string s

@[simp] theorem Value.isPlain_bool (b : Bool) :
    (Value.bool b).IsPlain :=
  .bool b

namespace Toml

/- A line end ends every value and every key. -/
theorem unquoted_lineEnd (more : List Char) :
    Unquoted ('\n' :: more) := by
  constructor <;> simp

theorem readWord?_word
    {word : List Char}
    {v : Value}
    (hWord : word.all isWordChar = true)
    (hDate : afterDate? word = none)
    (hValue : wordValue? word = some v)
    (more : List Char) :
    readWord? (word ++ '\n' :: more) = some (v, '\n' :: more) := by
  have hAll : ∀ c ∈ word, isWordChar c = true :=
    List.all_eq_true.mp hWord
  have hLine : isWordChar '\n' = false := by decide
  have hTake :
      takeWord (word ++ '\n' :: more) = (word, '\n' :: more) := by
    unfold takeWord
    rw [List.takeWhile_append_of_pos hAll,
      List.dropWhile_append_of_pos hAll]
    simp [hLine, hDate]
  unfold readWord?
  rw [hTake]
  simp [hValue]

/- A plain value is written without a blank at its start. -/
theorem skipSpace_inline
    {v : Value}
    (hPlain : v.IsPlain)
    (more : List Char) :
    skipSpace ((inline v).toList ++ more) =
      (inline v).toList ++ more := by
  cases hPlain with
  | string s =>
      rcases head?_written (Form.ofText (Traits.ofText s.toList))
          s.toList with
        ⟨rest, hText | hText⟩
      · have hList : (inline (.string s)).toList = '"' :: rest := hText
        rw [hList]
        exact skipSpace_cons (by decide) _
      · have hList : (inline (.string s)).toList = '\'' :: rest := hText
        rw [hList]
        exact skipSpace_cons (by decide) _
  | bool b =>
      cases b
      · exact skipSpace_cons (c := 'f') (by decide) _
      · exact skipSpace_cons (c := 't') (by decide) _

/- A plain value that is written on a line is read back. -/
theorem readValue?_inline
    {v : Value}
    (hPlain : v.IsPlain)
    (depth : Nat)
    (more : List Char) :
    readValue? depth ((inline v).toList ++ '\n' :: more) =
      some (v, '\n' :: more) := by
  cases hPlain with
  | string s =>
      have hRead := readString?_stringText s (unquoted_lineEnd more)
      rw [inline]
      rcases head?_written (Form.ofText (Traits.ofText s.toList))
          s.toList with
        ⟨rest, hText | hText⟩
      · have hList : (stringText s).toList = '"' :: rest := hText
        rw [hList, List.cons_append] at hRead ⊢
        cases depth <;> simp [readValue?, hRead]
      · have hList : (stringText s).toList = '\'' :: rest := hText
        rw [hList, List.cons_append] at hRead ⊢
        cases depth <;> simp [readValue?, hRead]
  | bool b =>
      have hWord :
          readWord? ((inline (.bool b)).toList ++ '\n' :: more) =
            some (.bool b, '\n' :: more) := by
        cases b with
        | true =>
            have hValue :
                wordValue? "true".toList = some (.bool true) :=
              if_pos rfl
            exact readWord?_word (by decide) (by decide) hValue more
        | false =>
            have hValue :
                wordValue? "false".toList = some (.bool false) := by
              unfold wordValue?
              rw [if_neg (by decide), if_pos rfl]
            exact readWord?_word (by decide) (by decide) hValue more
      rw [← hWord]
      cases b <;> cases depth <;> simp [inline, readValue?]

end Toml

end StorageRouting

------------------------------------------------------------
-- Statements
------------------------------------------------------------

namespace StorageRouting

namespace Toml

/- The line that assigns a value to a key. -/
def assignLine (f : String × Value) : String :=
  keyText f.1 ++ " = " ++ inline f.2

/- The line that opens a table. -/
def tableLine (path : List String) : String :=
  "[" ++ pathText path ++ "]"

/- A character with which a statement can start. -/
structure StartsStatement (c : Char) : Prop where
  not_space : isSpace c = false
  not_comment : c ≠ '#'
  not_feed : c ≠ '\n'
  not_return : c ≠ '\r'
  not_mark : c.toNat ≠ 0xFEFF

/- A statement can start with a key. -/
theorem StartsKey.startsStatement
    {c : Char}
    (h : StartsKey c) : StartsStatement c where
  not_space := h.isSpace_eq
  not_comment := h.ne (by decide) (by decide) (by decide)
  not_feed := h.ne (by decide) (by decide) (by decide)
  not_return := h.ne (by decide) (by decide) (by decide)
  not_mark := by
    intro hMark
    have hOther : c ≠ Char.ofNat 0xFEFF :=
      h.ne (by decide) (by decide) (by decide)
    apply hOther
    rw [← hMark, Char.ofNat_toNat]

/-
  A line holds a statement: it starts like one, and is read up to
  its end.
-/
structure Holds
    (line : String)
    (s : Statement) : Prop where
  starts : ∃ c cs, line.toList = c :: cs ∧ StartsStatement c
  reads :
    ∀ more,
      readStatement? (line.toList ++ '\n' :: more) =
        some (s, '\n' :: more)

/- A line that assigns a plain value to a key. -/
theorem holds_assignLine
    {f : String × Value}
    (hPlain : f.2.IsPlain) :
    Holds (assignLine f) (.assign ⟨[], f.1⟩ f.2) := by
  rcases f with ⟨k, v⟩
  rcases exists_startsKey k with ⟨c, cs, hText, hStart⟩
  have hLine :
      ∀ more,
        (assignLine (k, v)).toList ++ more =
          (keyText k).toList ++
            (' ' :: '=' :: ' ' :: ((inline v).toList ++ more)) := by
    intro more
    simp [assignLine]
  constructor
  · refine ⟨c, cs ++ (' ' :: '=' :: ' ' :: (inline v).toList), ?_,
      hStart.startsStatement⟩
    have hAll := hLine []
    rw [List.append_nil, List.append_nil, hText] at hAll
    rw [hAll, List.cons_append]
  · intro more
    have hEnds :
        EndsKey
          (' ' :: '=' :: ' ' ::
            ((inline v).toList ++ '\n' :: more)) := by
      refine ⟨⟨by simp, by simp⟩, ?_⟩
      intro d hd
      cases hd
      decide
    have hSpace :
        skipSpace
            (' ' :: '=' :: ' ' ::
              ((inline v).toList ++ '\n' :: more)) =
          '=' :: ' ' :: ((inline v).toList ++ '\n' :: more) := by
      simp [skipSpace, isSpace]
    have hPath := readPath?_pathText hEnds (by simp [hSpace]) [] k
    rw [List.nil_append, pathText_singleton, hSpace] at hPath
    have hValue :
        readValue? nestingLimit
            (skipSpace (' ' :: ((inline v).toList ++ '\n' :: more))) =
          some (v, '\n' :: more) := by
      have hSkip :
          skipSpace (' ' :: ((inline v).toList ++ '\n' :: more)) =
            skipSpace ((inline v).toList ++ '\n' :: more) := by
        simp [skipSpace, isSpace]
      rw [hSkip, skipSpace_inline hPlain]
      exact readValue?_inline hPlain nestingLimit more
    have hBracket : c ≠ '[' :=
      hStart.ne (by decide) (by decide) (by decide)
    rw [hLine]
    unfold readStatement?
    split
    · rename_i hSame
      rw [hText] at hSame
      exact absurd (List.cons.inj hSame).1 hBracket
    · rename_i hSame
      rw [hText] at hSame
      exact absurd (List.cons.inj hSame).1 hBracket
    · rw [hPath]
      simp [after?, hValue]

/- A line that opens a table. -/
theorem holds_tableLine
    (parents : List String)
    (key : String) :
    Holds (tableLine (parents ++ [key])) (.table ⟨parents, key⟩) := by
  have hLine :
      ∀ more,
        (tableLine (parents ++ [key])).toList ++ more =
          '[' :: ((pathText (parents ++ [key])).toList ++
            (']' :: more)) := by
    intro more
    simp [tableLine]
  constructor
  · refine ⟨'[', (pathText (parents ++ [key])).toList ++ [']'], ?_,
      by decide, by decide, by decide, by decide, by decide⟩
    have hAll := hLine []
    rwa [List.append_nil] at hAll
  · intro more
    have hEnds : EndsKey (']' :: '\n' :: more) := by
      refine ⟨⟨by simp, by simp⟩, ?_⟩
      intro d hd
      cases hd
      decide
    have hSpace :
        skipSpace (']' :: '\n' :: more) = ']' :: '\n' :: more :=
      skipSpace_cons (by decide) _
    have hPath :=
      readPath?_pathText hEnds (by simp [hSpace]) parents key
    rw [hSpace] at hPath
    rcases exists_startsKey_path parents key with
      ⟨c, cs, hText, hStart⟩
    have hBracket : c ≠ '[' :=
      hStart.ne (by decide) (by decide) (by decide)
    rw [hLine]
    unfold readStatement?
    split
    · rename_i hSame
      rw [hText] at hSame
      have hTail := (List.cons.inj hSame).2
      exact absurd (List.cons.inj hTail).1 hBracket
    · rename_i hSame
      rw [← (List.cons.inj hSame).2, hPath]
      simp [after?]
    · rename_i hOther
      exact absurd rfl (hOther _)

end Toml

end StorageRouting

------------------------------------------------------------
-- Lines
------------------------------------------------------------

namespace StorageRouting

namespace Toml

/- The text of some lines. -/
def linesText (lines : List String) : List Char :=
  lines.flatMap (fun line => line.toList ++ ['\n'])

theorem linesText_cons
    (line : String)
    (lines : List String) :
    linesText (line :: lines) =
      line.toList ++ '\n' :: linesText lines := by
  simp [linesText]

/- Lines that hold statements, with empty lines between them. -/
inductive Reads : List String → List Statement → Prop
| nil : Reads [] []
| blank
    {lines : List String}
    {ss : List Statement}
    (rest : Reads lines ss) :
    Reads ("" :: lines) ss
| statement
    {line : String}
    {s : Statement}
    {lines : List String}
    {ss : List Statement}
    (holds : Holds line s)
    (rest : Reads lines ss) :
    Reads (line :: lines) (s :: ss)

theorem Reads.append
    {lines more : List String}
    {ss ts : List Statement}
    (h : Reads lines ss)
    (hMore : Reads more ts) : Reads (lines ++ more) (ss ++ ts) := by
  induction h with
  | nil => exact hMore
  | blank _ ih => exact .blank ih
  | statement holds _ ih => exact .statement holds ih

/- Lines that hold statements start with no byte order mark. -/
theorem Reads.dropMark_eq
    {lines : List String}
    {ss : List Statement}
    (h : Reads lines ss) :
    dropMark (linesText lines) = linesText lines := by
  cases h with
  | nil => rfl
  | blank rest =>
      rw [linesText_cons]
      rfl
  | statement holds rest =>
      rcases holds.starts with ⟨c, cs, hLine, hStart⟩
      rw [linesText_cons, hLine, List.cons_append, dropMark,
        if_neg hStart.not_mark]

/- There are no more statements than line ends. -/
theorem Reads.length_lt
    {lines : List String}
    {ss : List Statement}
    (h : Reads lines ss) :
    ss.length < (linesText lines).length + 1 := by
  induction h with
  | nil => exact Nat.zero_lt_one
  | blank rest ih =>
      rw [linesText_cons, List.length_append, List.length_cons]
      omega
  | statement holds rest ih =>
      rw [linesText_cons, List.length_append, List.length_cons,
        List.length_cons]
      omega

/- A line end is skipped together with what comes before it. -/
theorem skipLines?_lineEnd (cs : List Char) :
    skipLines? (('\n' :: cs).length + 1) ('\n' :: cs) =
      skipLines? (cs.length + 1) cs :=
  rfl

/- The start of a statement is not skipped. -/
theorem skipLines?_of_starts
    {c : Char}
    (h : StartsStatement c)
    (fuel : Nat)
    (cs : List Char) :
    skipLines? (fuel + 1) (c :: cs) = some (c :: cs) := by
  have hComment : skipComment? (c :: cs) = some (c :: cs) := by
    unfold skipComment?
    rw [skipSpace_cons h.not_space]
    split
    · rename_i hSame
      exact absurd (List.cons.inj hSame).1 h.not_comment
    · rfl
  rw [skipLines?, hComment]
  simp only [Option.bind_eq_bind, Option.bind_some,
    lineEnd?_eq_none h.not_feed h.not_return]

/- All statements of some lines are read back. -/
theorem Reads.statements
    {lines : List String}
    {ss : List Statement}
    (h : Reads lines ss)
    {fuel : Nat}
    (hFuel : ss.length < fuel) :
    statements? fuel (linesText lines) = some ss := by
  induction h generalizing fuel with
  | nil =>
      cases fuel with
      | zero => exact absurd hFuel (Nat.not_lt_zero _)
      | succ fuel => rfl
  | blank rest ih =>
      rename_i lines ss
      cases fuel with
      | zero => exact absurd hFuel (Nat.not_lt_zero _)
      | succ fuel =>
          have hSame :
              linesText ("" :: lines) = '\n' :: linesText lines :=
            linesText_cons "" lines
          have hRest := ih hFuel
          rw [statements?] at hRest ⊢
          rw [hSame, skipLines?_lineEnd]
          exact hRest
  | statement holds rest ih =>
      rename_i line s lines ss
      cases fuel with
      | zero => exact absurd hFuel (Nat.not_lt_zero _)
      | succ fuel =>
          rcases holds.starts with ⟨c, cs, hLine, hStart⟩
          have hRest := ih (Nat.lt_of_succ_lt_succ hFuel)
          have hRead := holds.reads (linesText lines)
          have hComment :
              skipComment? ('\n' :: linesText lines) =
                some ('\n' :: linesText lines) :=
            rfl
          have hLineEnd :
              lineEnd? ('\n' :: linesText lines) =
                some (linesText lines) :=
            rfl
          rw [linesText_cons, statements?]
          rw [hLine, List.cons_append] at hRead ⊢
          rw [skipLines?_of_starts hStart]
          simp only [Option.bind_eq_bind, Option.bind_some,
            List.isEmpty_cons, Bool.false_eq_true, if_false, hRead,
            hComment, hLineEnd, hRest]
          rfl

end Toml

end StorageRouting
