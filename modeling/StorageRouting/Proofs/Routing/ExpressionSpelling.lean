import StorageRouting.Proofs.Routing.ExpressionGrammar

/-
  The spellings of an argument and a path into it.  Whether the
  argument is named, numbered, or reached through the call, what
  its expression finds is what stands at the end of the path.

  Key definitions include:
    * `Value.Leads`
    * `Value.Renders`
    * `Invocation.Reaches`
    * `Invocation.Shows`
    * `Segment.IsPlain`
    * `Expression.pathText`

  Main statements:
    * `Expression.follow?_eq_some_iff`
    * `Expression.render?_eq_some_iff`
    * `Expression.spells_pathText`
    * `Expression.spellings_agree`
-/

------------------------------------------------------------
-- Paths Into Values
------------------------------------------------------------

namespace StorageRouting

namespace Value

/-
  A path leads from a value to another: fields only through
  objects, and indices only through arrays.
-/
inductive Leads : Value → List Segment → Value → Prop where
| here (v : Value) : Leads v [] v
| field
    {fields : List (String × Value)}
    {name : String}
    {v w : Value}
    {rest : List Segment}
    (hField : fields.lookup name = some v)
    (hRest : Leads v rest w) :
    Leads (.object fields) (.field name :: rest) w
| index
    {items : List Value}
    {n : Nat}
    {v w : Value}
    {rest : List Segment}
    (hItem : items[n]? = some v)
    (hRest : Leads v rest w) :
    Leads (.array items) (.index n :: rest) w

/-
  The values that stand for a routing key: texts that are not
  empty, numbers and truth values.
-/
inductive Renders : Value → String → Prop where
| string
    {s : String}
    (hFull : s ≠ "") : Renders (.string s) s
| int (n : Int) : Renders (.int n) (toString n)
| double (d : Binary64) : Renders (.double d) d.text
| bool (b : Bool) : Renders (.bool b) (toString b)

end Value

namespace Invocation

/- What stands at the end of a path into an argument. -/
def Reaches
    (i : Invocation)
    (n : Nat)
    (path : List Segment)
    (w : Value) : Prop :=
  ∃ name v, i.args[n]? = some (name, v) ∧ v.Leads path w

/- The routing key at the end of a path into an argument. -/
def Shows
    (i : Invocation)
    (n : Nat)
    (path : List Segment)
    (key : String) : Prop :=
  ∃ w, i.Reaches n path w ∧ w.Renders key

end Invocation

namespace Expression

/- A path is followed to where it leads. -/
theorem follow?_eq_some_iff
    {v w : Value}
    {path : List Segment} :
    follow? v path = some w ↔ v.Leads path w := by
  induction path generalizing v with
  | nil =>
      constructor
      · intro h
        cases h
        exact .here _
      · rintro ⟨⟩
        rfl
  | cons s rest ih =>
      cases s with
      | field name =>
          rw [follow?]
          constructor
          · intro h
            split at h
            · rename_i u hField
              cases v with
              | object fields => exact .field hField (ih.mp h)
              | _ => cases hField
            · cases h
          · rintro (_ | ⟨hField, hRest⟩)
            simp only [Value.field?, hField]
            exact ih.mpr hRest
      | index n =>
          rw [follow?]
          constructor
          · intro h
            split at h
            · rename_i u hItem
              cases v with
              | array items => exact .index hItem (ih.mp h)
              | _ => cases hItem
            · cases h
          · rintro (_ | _ | ⟨hItem, hRest⟩)
            simp only [Value.item?, hItem]
            exact ih.mpr hRest

/- A value is rendered as the key that it stands for. -/
theorem render?_eq_some_iff
    {v : Value}
    {key : String} :
    render? v = some key ↔ v.Renders key := by
  constructor
  · intro h
    cases v with
    | string s =>
        rw [render?] at h
        split at h
        · cases h
        · rename_i hFull
          cases h
          exact .string (by simpa using hFull)
    | int n =>
        cases h
        exact .int n
    | double d =>
        cases h
        exact .double d
    | bool b =>
        cases b <;> cases h
        · exact .bool false
        · exact .bool true
    | _ => cases h
  · rintro (hFull | _ | _ | b)
    · rw [render?, if_neg (by simpa using hFull)]
    · rfl
    · rfl
    · cases b <;> rfl

end Expression

end StorageRouting

------------------------------------------------------------
-- Spelling Paths
------------------------------------------------------------

namespace StorageRouting

namespace Segment

/-
  A segment that can be spelled: the field of an identifier, or
  an index of 64 bits.
-/
def IsPlain : Segment → Prop
| .field name => Expression.IsIdentifier name
| .index n => n < Width.count 64

/- A segment in writing. -/
def text : Segment → String
| .field name => "." ++ name
| .index n => "[" ++ toString n ++ "]"

end Segment

namespace Expression

/- A path in writing. -/
def pathText : List Segment → String
| [] => ""
| s :: rest => s.text ++ pathText rest

/- The decimal digits of a number, as characters. -/
theorem toList_toString (n : Nat) :
    (toString n).toList = Nat.toDigits 10 n := by
  rw [Nat.toString_eq_repr, Nat.toList_repr]

/- The digits of a number are characters of identifiers. -/
theorem isIdentChar_of_mem_toString
    {n : Nat}
    {c : Char}
    (h : c ∈ (toString n).toList) : isIdentChar c = true := by
  rw [toList_toString] at h
  have hDigit : c.isDigit = true :=
    Nat.isDigit_of_mem_toDigits (by decide) (by decide) h
  simp [isIdentChar, Char.isAlphanum, hDigit]

/- The digits of a number of 64 bits are the text of an index. -/
theorem isIndex_toString
    {n : Nat}
    (h : n < Width.count 64) : IsIndex (toString n).toList n := by
  rw [IsIndex,
    Text.trimChars_eq
      (fun c hc =>
        isBlank_of_isIdentChar (isIdentChar_of_mem_toString hc)),
    toList_toString]
  exact .inl (Decimal.denotes_toDigits h)

/- A path of plain segments in writing is the text of the path. -/
theorem pathText_spells
    {path : List Segment}
    (h : ∀ s ∈ path, s.IsPlain) :
    PathText (pathText path).toList path := by
  induction path with
  | nil => exact .nil
  | cons s rest ih =>
      have hRest := ih (fun t ht => h t (List.mem_cons_of_mem _ ht))
      have hPlain := h s List.mem_cons_self
      cases s with
      | field name =>
          simpa [pathText, Segment.text] using
            PathText.field hPlain hRest
      | index n =>
          have hOpen : ']' ∉ (toString n).toList :=
            fun hMem =>
              absurd (isIdentChar_of_mem_toString hMem) (by decide)
          simpa [pathText, Segment.text] using
            PathText.index hOpen (isIndex_toString hPlain) hRest

/- No character of a plain segment in writing is blank. -/
theorem isBlank_of_mem_text
    {s : Segment}
    (h : s.IsPlain)
    {c : Char}
    (hc : c ∈ s.text.toList) : Text.isBlank c = false := by
  cases s with
  | field name =>
      rw [Segment.text, String.toList_append, List.mem_append] at hc
      rcases hc with hDot | hName
      · cases List.mem_singleton.mp hDot
        rfl
      · exact isBlank_of_isIdentChar (h.2 c hName)
  | index n =>
      rw [Segment.text, String.toList_append, String.toList_append,
        List.mem_append, List.mem_append] at hc
      rcases hc with (hOpen | hDigit) | hClose
      · cases List.mem_singleton.mp hOpen
        rfl
      · exact
          isBlank_of_isIdentChar (isIdentChar_of_mem_toString hDigit)
      · cases List.mem_singleton.mp hClose
        rfl

/- No character of a plain path in writing is blank. -/
theorem isBlank_of_mem_pathText
    {path : List Segment}
    (h : ∀ s ∈ path, s.IsPlain)
    {c : Char}
    (hc : c ∈ (pathText path).toList) : Text.isBlank c = false := by
  induction path with
  | nil => simp [pathText] at hc
  | cons s rest ih =>
      rw [pathText, String.toList_append, List.mem_append] at hc
      rcases hc with hSegment | hRest
      · exact isBlank_of_mem_text (h s List.mem_cons_self) hSegment
      · exact ih (fun t ht => h t (List.mem_cons_of_mem _ ht)) hRest

/- An identifier and a path in writing spell an expression. -/
theorem spells_pathText
    {root : String}
    {path : List Segment}
    (hRoot : IsIdentifier root)
    (hPath : ∀ s ∈ path, s.IsPlain) :
    Spells ("#" ++ root ++ pathText path) ⟨root, path⟩ := by
  refine
    ⟨hRoot, root.toList ++ (pathText path).toList,
      (pathText path).toList, by simp, ?_, pathText_spells hPath⟩
  apply Text.trimChars_eq
  intro c hc
  rcases List.mem_append.mp hc with hMem | hMem
  · exact isBlank_of_isIdentChar (hRoot.2 c hMem)
  · exact isBlank_of_mem_pathText hPath hMem

end Expression

end StorageRouting

------------------------------------------------------------
-- Spelling Arguments
------------------------------------------------------------

namespace StorageRouting

namespace Invocation

variable {i : Invocation} {name : String} {n : Nat}

/- An argument that no call has is not found by its name. -/
theorem argument?_of_not_named
    (h : ∀ a ∈ i.args, a.1 ≠ name) : i.argument? name = none := by
  apply List.lookup_eq_none_iff.mpr
  intro a ha
  simpa using fun hSame => h a ha hSame.symm

/- The first argument of a name is found by the name. -/
theorem argument?_of_position
    (h : (i.args.map Prod.fst).idxOf? name = some n) :
    ∃ v, i.args[n]? = some (name, v) ∧
      i.argument? name = some v := by
  rw [argument?]
  generalize i.args = args at h ⊢
  induction args generalizing n with
  | nil => simp at h
  | cons a rest ih =>
      rcases a with ⟨other, v⟩
      rw [List.map_cons, List.idxOf?_cons] at h
      by_cases hSame : other = name
      · subst hSame
        simp only [beq_self_eq_true, if_true] at h
        cases h
        exact ⟨v, rfl, by simp⟩
      · have hNe : (name == other) = false := by
          simpa using fun hName => hSame hName.symm
        have hNe' : (other == name) = false := by
          simpa using hSame
        rw [hNe'] at h
        rcases Option.map_eq_some_iff.mp (by simpa using h) with
          ⟨k, hRest, rfl⟩
        rcases ih hRest with ⟨w, hItem, hFound⟩
        exact
          ⟨w, by simpa using hItem,
            by rw [List.lookup_cons, hNe]; exact hFound⟩

end Invocation

namespace Expression

variable {i : Invocation} {n : Nat} {path : List Segment} {w : Value}

/- What a path into the arguments of the call reaches. -/
theorem eval?_call_iff :
    eval? ⟨"root", .field "args" :: .index n :: path⟩ i = some w ↔
      i.Reaches n path w := by
  have hCall :
      eval? ⟨"root", .field "args" :: .index n :: path⟩ i =
        follow? (.array (i.args.map Prod.snd)) (.index n :: path) :=
    rfl
  rw [hCall, follow?_eq_some_iff, Invocation.Reaches]
  constructor
  · rintro (_ | _ | ⟨hItem, hRest⟩)
    rw [List.getElem?_map] at hItem
    rcases Option.map_eq_some_iff.mp hItem with ⟨a, hArg, rfl⟩
    exact ⟨a.1, a.2, hArg, hRest⟩
  · rintro ⟨name, v, hArg, hRest⟩
    exact .index (by rw [List.getElem?_map, hArg]; rfl) hRest

/- What a path into a variable reaches, given its argument. -/
theorem eval?_variable_iff
    {root : String}
    (hRoot : root ≠ "root")
    (hValue : rootValue? i root = i.positional? n) :
    eval? ⟨root, path⟩ i = some w ↔ i.Reaches n path w := by
  simp only [eval?, if_neg hRoot, hValue, Invocation.positional?,
    Invocation.Reaches]
  cases hArg : i.args[n]? with
  | none => simp
  | some a =>
      rcases a with ⟨name, v⟩
      simp only [Option.map_some, Option.some.injEq, Prod.mk.injEq]
      rw [follow?_eq_some_iff]
      constructor
      · exact fun h => ⟨name, v, ⟨rfl, rfl⟩, h⟩
      · rintro ⟨_, _, ⟨rfl, rfl⟩, h⟩
        exact h

/- The name of a position: a letter and the digits of the number. -/
def numberedName
    (letter : Char)
    (n : Nat) : String :=
  String.singleton letter ++ toString n

/- The characters of the name of a position. -/
theorem toList_numberedName
    (letter : Char)
    (n : Nat) :
    (numberedName letter n).toList =
      letter :: Nat.toDigits 10 n := by
  rw [numberedName, String.toList_append, toList_toString,
    String.toList_singleton, List.singleton_append]

/-
  The name of a position stands for it, unless an argument has
  that very name.
-/
theorem rootValue?_numbered
    {letter : Char}
    (hLetter : letter = 'p' ∨ letter = 'a')
    (hBound : n < Width.count 64)
    (hFree : ∀ a ∈ i.args, a.1 ≠ numberedName letter n) :
    rootValue? i (numberedName letter n) = i.positional? n := by
  have hPosition : position? (numberedName letter n) = some n := by
    simp only [position?, toList_numberedName, if_pos hLetter]
    exact
      Decimal.digits64?_eq_some_iff.mpr
        (Decimal.denotes_toDigits hBound)
  simp only [rootValue?, Invocation.argument?_of_not_named hFree,
    hPosition]

/- The name of the first argument of a name stands for it. -/
theorem rootValue?_named
    {name : String}
    (h : (i.args.map Prod.fst).idxOf? name = some n) :
    rootValue? i name = i.positional? n := by
  rcases Invocation.argument?_of_position h with
    ⟨v, hItem, hFound⟩
  simp only [rootValue?, hFound, Invocation.positional?, hItem,
    Option.map_some]

end Expression

end StorageRouting

------------------------------------------------------------
-- Agreement
------------------------------------------------------------

namespace StorageRouting

namespace Expression

/- What is found in a key that spells an expression. -/
theorem find?_of_spells
    {i : Invocation}
    {text : String}
    {e : Expression}
    (h : Spells text e)
    (key : String) :
    KeyResolver.expression.find? i text = some key ↔
      ∃ w, e.eval? i = some w ∧ w.Renders key := by
  have hFind :
      KeyResolver.expression.find? i text =
        (e.eval? i).bind render? := by
    simp only [KeyResolver.expression, key?, parse?_of_spells h]
  simp only [hFind, Option.bind_eq_some_iff, render?_eq_some_iff]

/- The names of positions are identifiers. -/
theorem isIdentifier_numberedName
    {letter : Char}
    (hLetter : letter = 'p' ∨ letter = 'a')
    (n : Nat) : IsIdentifier (numberedName letter n) := by
  refine ⟨?_, ?_⟩
  · intro hEmpty
    rw [← String.toList_inj, toList_numberedName] at hEmpty
    cases hEmpty
  · intro c hc
    rw [toList_numberedName, ← toList_toString] at hc
    rcases List.mem_cons.mp hc with rfl | hDigit
    · rcases hLetter with rfl | rfl <;> rfl
    · exact isIdentChar_of_mem_toString hDigit

/- The name of a position is not that of the call. -/
theorem numberedName_ne_root
    {letter : Char}
    (hLetter : letter = 'p' ∨ letter = 'a')
    (n : Nat) : numberedName letter n ≠ "root" := by
  intro hSame
  rw [← String.toList_inj, toList_numberedName] at hSame
  have hHead : letter = 'r' := (List.cons.inj hSame).1
  rcases hLetter with rfl | rfl <;> cases hHead

/-
  What is found at the end of a path into an argument does not
  depend on its spelling: through the arguments of the call; by
  its position behind a letter, unless an argument has that very
  name; and by its name, if it is the first one of that name.
-/
theorem spellings_agree
    (i : Invocation)
    (n : Nat)
    (hBound : n < Width.count 64)
    (path : List Segment)
    (hPath : ∀ s ∈ path, s.IsPlain)
    (key : String) :
    (KeyResolver.expression.find? i
          ("#root.args[" ++ toString n ++ "]" ++ pathText path) =
        some key ↔
      i.Shows n path key) ∧
    (∀ letter, letter = 'p' ∨ letter = 'a' →
      (∀ a ∈ i.args, a.1 ≠ numberedName letter n) →
        (KeyResolver.expression.find? i
            ("#" ++ numberedName letter n ++ pathText path) =
          some key ↔
        i.Shows n path key)) ∧
    ∀ name, IsIdentifier name → name ≠ "root" →
      (i.args.map Prod.fst).idxOf? name = some n →
        (KeyResolver.expression.find? i
            ("#" ++ name ++ pathText path) =
          some key ↔
        i.Shows n path key) := by
  refine ⟨?_, ?_, ?_⟩
  · have hArgs : IsIdentifier "args" :=
      ⟨by decide, List.all_eq_true.mp rfl⟩
    have hRoot : IsIdentifier "root" :=
      ⟨by decide, List.all_eq_true.mp rfl⟩
    have hPlain :
        ∀ s ∈ Segment.field "args" :: .index n :: path,
          s.IsPlain := by
      intro s hs
      rcases List.mem_cons.mp hs with rfl | hs
      · exact hArgs
      · rcases List.mem_cons.mp hs with rfl | hs
        · exact hBound
        · exact hPath s hs
    have hText :
        "#root.args[" ++ toString n ++ "]" ++ pathText path =
          "#" ++ "root" ++
            pathText (.field "args" :: .index n :: path) := by
      simp [← String.toList_inj, pathText, Segment.text]
    rw [hText, find?_of_spells (spells_pathText hRoot hPlain)]
    simp only [eval?_call_iff, Invocation.Shows]
  · intro letter hLetter hFree
    rw [find?_of_spells
      (spells_pathText (isIdentifier_numberedName hLetter n) hPath)]
    simp only [Invocation.Shows,
      eval?_variable_iff (numberedName_ne_root hLetter n)
        (rootValue?_numbered hLetter hBound hFree)]
  · intro name hName hRoot hFirst
    rw [find?_of_spells (spells_pathText hName hPath)]
    simp only [Invocation.Shows,
      eval?_variable_iff hRoot (rootValue?_named hFirst)]

/-
  A call with two arguments, of which the first has the name of
  the position of the second.
-/
def sampleShards : Invocation :=
  ((Invocation.new "upload").arg "p1" (.string "archive")).arg "user"
    (.object
      [("tenant", .string "acme"),
        ("shards", .array [.int 3, .int 7])])

/- The second shard of the sample, in three spellings. -/
theorem sampleShards_spellings :
    1 < Width.count 64 ∧
      (∀ s ∈ [Segment.field "shards", .index 1], s.IsPlain) ∧
      KeyResolver.expression.find? sampleShards
        "#root.args[1].shards[1]" = some "7" ∧
      (∀ a ∈ sampleShards.args, a.1 ≠ numberedName 'a' 1) ∧
      KeyResolver.expression.find? sampleShards
        "#a1.shards[1]" = some "7" ∧
      IsIdentifier "user" ∧
      (sampleShards.args.map Prod.fst).idxOf? "user" = some 1 ∧
      KeyResolver.expression.find? sampleShards
        "#user.shards[1]" = some "7" := by
  have hPath :
      ∀ s ∈ [Segment.field "shards", .index 1], s.IsPlain := by
    intro s hs
    rcases List.mem_cons.mp hs with rfl | hs
    · exact ⟨by decide, List.all_eq_true.mp rfl⟩
    · cases List.mem_singleton.mp hs
      exact (by decide : 1 < Width.count 64)
  have hShows :
      sampleShards.Shows 1 [.field "shards", .index 1] "7" :=
    ⟨.int 7,
      ⟨"user", _, rfl, .field rfl (.index rfl (.here _))⟩, .int 7⟩
  have hFree :
      ∀ a ∈ sampleShards.args, a.1 ≠ numberedName 'a' 1 := by
    decide
  have hUser : IsIdentifier "user" :=
    ⟨by decide, List.all_eq_true.mp rfl⟩
  have hAgree :=
    spellings_agree sampleShards 1 (by decide) _ hPath "7"
  exact
    ⟨by decide, hPath, hAgree.1.mpr hShows, hFree,
      (hAgree.2.1 'a' (.inr rfl) hFree).mpr hShows, hUser, rfl,
      (hAgree.2.2 "user" hUser (by decide) rfl).mpr hShows⟩

end Expression

end StorageRouting
