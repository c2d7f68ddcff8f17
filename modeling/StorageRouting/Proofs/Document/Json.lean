import Mathlib.Tactic.SplitIfs
import StorageRouting.Document.Json
import StorageRouting.Proofs.Number.Decimal

/-
  The indented form of a value is a JSON text of that value.
  Doubles are left out: they are written as the shortest digits
  that are read back.

  Key definitions include:
    * `Value.isExact`
    * `Json.SpellsString`
    * `Json.SpellsInt`
    * `Json.Spells`

  Main statements:
    * `Json.spellsString_quote`
    * `Json.spellsInt_toString`
    * `Json.spells_pretty`
-/

------------------------------------------------------------
-- Exact Values
------------------------------------------------------------

namespace StorageRouting

namespace Value

mutual

/- Whether neither doubles nor dates are in a value. -/
def isExact : Value → Bool
| .double _ => false
| .stamp _ => false
| .array items => areExact items
| .object fields => fieldsExact fields
| _ => true

/- Whether values are exact. -/
def areExact : List Value → Bool
| [] => true
| v :: rest => isExact v && areExact rest

/- Whether the values of fields are exact. -/
def fieldsExact : List (String × Value) → Bool
| [] => true
| (_, v) :: rest => isExact v && fieldsExact rest

end

@[simp] theorem isExact_string (s : String) :
    (string s).isExact = true := by
  rw [isExact] <;> nofun

@[simp] theorem isExact_bool (b : Bool) :
    (bool b).isExact = true := by
  rw [isExact] <;> nofun

@[simp] theorem isExact_int (n : Int) :
    (int n).isExact = true := by
  rw [isExact] <;> nofun

@[simp] theorem isExact_nat (n : Nat) :
    (nat n).isExact = true :=
  isExact_int n

@[simp] theorem isExact_ofString? (s : Option String) :
    (ofString? s).isExact = true := by
  cases s with
  | none => rw [ofString?, isExact] <;> nofun
  | some s => exact isExact_string s

@[simp] theorem isExact_object (fields : List (String × Value)) :
    (object fields).isExact = fieldsExact fields := by
  rw [isExact]

@[simp] theorem fieldsExact_nil : fieldsExact [] = true := by
  rw [fieldsExact]

@[simp] theorem fieldsExact_cons
    (x : String × Value)
    (rest : List (String × Value)) :
    fieldsExact (x :: rest) =
      (x.2.isExact && fieldsExact rest) := by
  rw [fieldsExact]

@[simp] theorem fieldsExact_append
    (a b : List (String × Value)) :
    fieldsExact (a ++ b) = (fieldsExact a && fieldsExact b) := by
  induction a with
  | nil => simp
  | cons x rest ih => simp [ih, Bool.and_assoc]

variable {α : Type} {f : α → Value}

/- An array is exact if its elements are. -/
@[simp] theorem isExact_array_map
    (h : ∀ a, (f a).isExact = true)
    (items : List α) : (array (items.map f)).isExact = true := by
  rw [isExact]
  induction items with
  | nil => simp [areExact]
  | cons a rest ih => simp [areExact, h, ih]

@[simp] theorem isExact_ofStrings (ss : List String) :
    (ofStrings ss).isExact = true :=
  isExact_array_map isExact_string ss

@[simp] theorem fieldsExact_optional_map
    (h : ∀ a, (f a).isExact = true)
    (name : String)
    (o : Option α) :
    fieldsExact (optional name (o.map f)) = true := by
  cases o <;> simp [optional, h]

theorem fieldsExact_insertField
    {name : String}
    {v : Value}
    {fields : List (String × Value)}
    (hv : v.isExact = true)
    (h : fieldsExact fields = true) :
    fieldsExact (insertField name v fields) = true := by
  induction fields with
  | nil => simp [insertField, hv]
  | cons x rest ih =>
      rcases x with ⟨k, w⟩
      rw [fieldsExact_cons, Bool.and_eq_true] at h
      unfold insertField
      split_ifs <;> simp [hv, h.1, h.2, ih h.2]

/- Fields in order of name are exact if the given ones are. -/
theorem isExact_sorted
    {fields : List (String × Value)}
    (h : fieldsExact fields = true) :
    (sorted fields).isExact = true := by
  rw [sorted, isExact_object, sortFields]
  suffices hAll :
      ∀ acc, fieldsExact acc = true →
        fieldsExact
          (fields.foldl (fun acc x => insertField x.1 x.2 acc) acc) =
            true from
    hAll [] fieldsExact_nil
  induction fields with
  | nil => exact fun _ hAcc => hAcc
  | cons x rest ih =>
      rw [fieldsExact_cons, Bool.and_eq_true] at h
      intro acc hAcc
      exact ih h.2 _ (fieldsExact_insertField h.1 hAcc)

end Value

end StorageRouting

------------------------------------------------------------
-- The Grammar
------------------------------------------------------------

namespace StorageRouting

namespace Json

/- Blanks between tokens, if there are any. -/
def AllSpace (cs : List Char) : Prop :=
  ∀ c ∈ cs, isSpace c = true

/- The characters that are escaped by a mark of one letter. -/
def shortEscapes : List (Char × Char) :=
  [('"', '"'), ('\\', '\\'), ('/', '/'), ('b', Char.ofNat 8),
    ('f', Char.ofNat 12), ('n', '\n'), ('r', '\r'), ('t', '\t')]

/-
  A character inside a string: as it is, behind a backslash, or
  by its code.  Pairs of codes for one character are left out.
-/
inductive SpellsChar : Char → List Char → Prop where
| plain
    {c : Char}
    (hQuote : c ≠ '"')
    (hBackslash : c ≠ '\\')
    (hControl : 32 ≤ c.toNat) : SpellsChar c [c]
| short
    {c mark : Char}
    (h : (mark, c) ∈ shortEscapes) : SpellsChar c ['\\', mark]
| code
    {c : Char}
    {digits : List Char}
    (hLength : digits.length = 4)
    (h : Hex.number? digits = some c.toNat) :
    SpellsChar c ('\\' :: 'u' :: digits)

/- Characters inside a string, one after the other. -/
inductive SpellsChars : List Char → List Char → Prop where
| nil : SpellsChars [] []
| cons
    {c : Char}
    {cs es rest : List Char}
    (h : SpellsChar c es)
    (hRest : SpellsChars cs rest) :
    SpellsChars (c :: cs) (es ++ rest)

/- A string between quotation marks. -/
def SpellsString
    (s : String)
    (cs : List Char) : Prop :=
  ∃ body, SpellsChars s.toList body ∧ cs = '"' :: body ++ ['"']

/- Digits of a number; only zero itself starts with a zero. -/
structure SpellsNat
    (n : Nat)
    (cs : List Char) : Prop where
  nonempty : cs ≠ []
  digits : ∀ c ∈ cs, c.isDigit = true
  value_eq : Decimal.value cs = n
  no_leading_zero : cs.head? = some '0' → cs = ['0']

/- Digits of a number, behind a minus sign if it is negative. -/
def SpellsInt
    (n : Int)
    (cs : List Char) : Prop :=
  (∃ m : Nat, n = m ∧ SpellsNat m cs) ∨
  ∃ (m : Nat) (digits : List Char),
    n = -(m : Int) ∧ cs = '-' :: digits ∧ SpellsNat m digits

mutual

/- Text that stands for a value by the grammar of JSON. -/
inductive Spells : Value → List Char → Prop where
| null : Spells .null ['n', 'u', 'l', 'l']
| yes : Spells (.bool true) ['t', 'r', 'u', 'e']
| no : Spells (.bool false) ['f', 'a', 'l', 's', 'e']
| int
    {n : Int}
    {cs : List Char}
    (h : SpellsInt n cs) : Spells (.int n) cs
| string
    {s : String}
    {cs : List Char}
    (h : SpellsString s cs) : Spells (.string s) cs
| emptyArray
    {blanks : List Char}
    (h : AllSpace blanks) :
    Spells (.array []) ('[' :: blanks ++ [']'])
| array
    {items : List Value}
    {cs : List Char}
    (h : SpellsItems items cs) :
    Spells (.array items) ('[' :: cs ++ [']'])
| emptyObject
    {blanks : List Char}
    (h : AllSpace blanks) :
    Spells (.object []) ('\x7b' :: blanks ++ ['\x7d'])
| object
    {fields : List (String × Value)}
    {cs : List Char}
    (h : SpellsFields fields cs) :
    Spells (.object fields) ('\x7b' :: cs ++ ['\x7d'])

/- Elements with commas between them. -/
inductive SpellsItems : List Value → List Char → Prop where
| last
    {v : Value}
    {before cs after : List Char}
    (hBefore : AllSpace before)
    (h : Spells v cs)
    (hAfter : AllSpace after) :
    SpellsItems [v] (before ++ cs ++ after)
| more
    {v : Value}
    {items : List Value}
    {before cs after rest : List Char}
    (hBefore : AllSpace before)
    (h : Spells v cs)
    (hAfter : AllSpace after)
    (hRest : SpellsItems items rest) :
    SpellsItems (v :: items) (before ++ cs ++ after ++ ',' :: rest)

/- Names and values with commas between them. -/
inductive SpellsFields :
    List (String × Value) → List Char → Prop where
| last
    {name : String}
    {v : Value}
    {before ns middle cs after : List Char}
    (hBefore : AllSpace before)
    (hName : SpellsString name ns)
    (hMiddle : AllSpace middle)
    (h : Spells v cs)
    (hAfter : AllSpace after) :
    SpellsFields [(name, v)]
      (before ++ ns ++ ':' :: middle ++ cs ++ after)
| more
    {name : String}
    {v : Value}
    {fields : List (String × Value)}
    {before ns middle cs after rest : List Char}
    (hBefore : AllSpace before)
    (hName : SpellsString name ns)
    (hMiddle : AllSpace middle)
    (h : Spells v cs)
    (hAfter : AllSpace after)
    (hRest : SpellsFields fields rest) :
    SpellsFields ((name, v) :: fields)
      (before ++ ns ++ ':' :: middle ++ cs ++ after ++ ',' :: rest)

end

/- Texts of values, each of them ended by a line break. -/
inductive SpellsLines : List Value → List Char → Prop where
| nil : SpellsLines [] []
| cons
    {v : Value}
    {vs : List Value}
    {cs rest : List Char}
    (h : Spells v cs)
    (hRest : SpellsLines vs rest) :
    SpellsLines (v :: vs) (cs ++ '\n' :: rest)

end Json

end StorageRouting

------------------------------------------------------------
-- Strings and Numbers
------------------------------------------------------------

namespace StorageRouting

namespace Json

theorem number?_hexFour :
    ∀ n < 32, Hex.number? (hexFour n) = some n := by
  decide

theorem spellsChar_escapeChar (c : Char) :
    SpellsChar c (escapeChar c) := by
  have hOfNat {n : Nat} (h : c.toNat = n) : c = Char.ofNat n := by
    rw [← h, Char.ofNat_toNat]
  unfold escapeChar
  split_ifs with hQuote hBackslash hLine hReturn hTab hBack hFeed
    hControl
  · exact .short (by simp [shortEscapes, hQuote])
  · exact .short (by simp [shortEscapes, hBackslash])
  · exact .short (by simp [shortEscapes, hLine])
  · exact .short (by simp [shortEscapes, hReturn])
  · exact .short (by simp [shortEscapes, hTab])
  · exact .short (by simp [shortEscapes, hOfNat hBack])
  · exact .short (by simp [shortEscapes, hOfNat hFeed])
  · exact .code rfl (number?_hexFour c.toNat hControl)
  · exact .plain hQuote hBackslash (Nat.le_of_not_lt hControl)

theorem spellsChars_flatMap (cs : List Char) :
    SpellsChars cs (cs.flatMap escapeChar) := by
  induction cs with
  | nil => exact .nil
  | cons c rest ih =>
      rw [List.flatMap_cons]
      exact .cons (spellsChar_escapeChar c) ih

/- A quoted string is a JSON string. -/
theorem spellsString_quote (s : String) :
    SpellsString s (quote s).toList := by
  refine ⟨s.toList.flatMap escapeChar, spellsChars_flatMap _, ?_⟩
  rw [quote, String.toList_ofList]

theorem digitChar_eq_zero :
    ∀ n < 10, Nat.digitChar n = '0' → n = 0 := by
  decide

/- No number but zero has a zero in front. -/
theorem eq_zero_of_head?_toDigits
    {n : Nat}
    (h : (Nat.toDigits 10 n).head? = some '0') : n = 0 := by
  induction n using Nat.strongRecOn with
  | ind n ih =>
      by_cases hSmall : n < 10
      · rw [Nat.toDigits_of_lt_base hSmall, List.head?_cons] at h
        exact digitChar_eq_zero n hSmall (Option.some.inj h)
      · have hTen : 10 ≤ n := Nat.le_of_not_lt hSmall
        rw [Nat.toDigits_of_base_le (by decide) hTen,
          List.head?_append] at h
        cases hHead : (Nat.toDigits 10 (n / 10)).head? with
        | none =>
            exact
              absurd (List.head?_eq_none_iff.mp hHead)
                Nat.toDigits_ne_nil
        | some c =>
            rw [hHead] at h
            cases h
            have hZero := ih (n / 10) (by omega) hHead
            omega

theorem spellsNat_toDigits (n : Nat) :
    SpellsNat n (Nat.toDigits 10 n) where
  nonempty := Nat.toDigits_ne_nil
  digits _ hc :=
    Nat.isDigit_of_mem_toDigits (by decide) (by decide) hc
  value_eq := Decimal.value_toDigits n
  no_leading_zero h := by
    rw [eq_zero_of_head?_toDigits h]
    rfl

/- A printed number is a JSON number. -/
theorem spellsInt_toString (n : Int) :
    SpellsInt n (toString n).toList := by
  cases n with
  | ofNat m =>
      refine .inl ⟨m, rfl, ?_⟩
      have hText : (toString (Int.ofNat m)).toList = Nat.toDigits 10 m :=
        Nat.toList_repr
      rw [hText]
      exact spellsNat_toDigits m
  | negSucc m =>
      refine .inr ⟨m + 1, Nat.toDigits 10 (m + 1), rfl, ?_,
        spellsNat_toDigits (m + 1)⟩
      have hText : toString (Int.negSucc m) = "-" ++ (m + 1).repr :=
        rfl
      rw [hText, String.toList_append, Nat.toList_repr]
      rfl

end Json

end StorageRouting

------------------------------------------------------------
-- Values
------------------------------------------------------------

namespace StorageRouting

namespace Json

theorem allSpace_nil : AllSpace [] :=
  fun _ h => absurd h List.not_mem_nil

theorem allSpace_blank : AllSpace [' '] := by
  intro c hc
  rw [List.mem_singleton.mp hc]
  rfl

theorem allSpace_breakLine (depth : Nat) :
    AllSpace (breakLine depth).toList := by
  intro c hc
  have hText :
      (breakLine depth).toList =
        '\n' :: List.replicate (2 * depth) ' ' := by
    simp only [breakLine, Text.repeatChar, String.toList_append,
      String.toList_ofList]
    rfl
  rw [hText] at hc
  rcases List.mem_cons.mp hc with rfl | hc
  · rfl
  · rw [List.eq_of_mem_replicate hc]
    rfl

mutual

/- An exact value is spelled at any depth. -/
theorem spells_prettyAt :
    ∀ (v : Value) (depth : Nat),
      v.isExact = true → Spells v (prettyAt depth v).toList
| .null, depth, h => by
    rw [prettyAt]
    exact .null
| .bool true, depth, h => by
    rw [prettyAt]
    exact .yes
| .bool false, depth, h => by
    rw [prettyAt]
    exact .no
| .int n, depth, h => by
    rw [prettyAt]
    exact .int (spellsInt_toString n)
| .double d, depth, h => by
    rw [Value.isExact] at h
    cases h
| .string s, depth, h => by
    rw [prettyAt]
    exact .string (spellsString_quote s)
| .stamp s, depth, h => by
    rw [Value.isExact] at h
    cases h
| .array [], depth, h => by
    rw [prettyAt]
    exact .emptyArray allSpace_nil
| .array (v :: rest), depth, h => by
    rw [Value.isExact] at h
    have hItems :=
      spells_prettyItems (v :: rest) (depth + 1)
        (List.cons_ne_nil v rest) h (allSpace_breakLine depth)
    have hText :
        (prettyAt depth (.array (v :: rest))).toList =
          '[' :: ((prettyItems (depth + 1) (v :: rest)).toList ++
            (breakLine depth).toList) ++ [']'] := by
      rw [prettyAt]
      simp only [String.toList_append]
      rfl
    rw [hText]
    exact .array hItems
| .object [], depth, h => by
    rw [prettyAt]
    exact .emptyObject allSpace_nil
| .object (x :: rest), depth, h => by
    rw [Value.isExact] at h
    have hFields :=
      spells_prettyFields (x :: rest) (depth + 1)
        (List.cons_ne_nil x rest) h (allSpace_breakLine depth)
    have hText :
        (prettyAt depth (.object (x :: rest))).toList =
          '\x7b' :: ((prettyFields (depth + 1) (x :: rest)).toList ++
            (breakLine depth).toList) ++ ['\x7d'] := by
      rw [prettyAt]
      simp only [String.toList_append]
      rfl
    rw [hText]
    exact .object hFields

/- So are exact elements, with blanks behind the last. -/
theorem spells_prettyItems :
    ∀ (items : List Value) (depth : Nat),
      items ≠ [] →
      Value.areExact items = true →
      ∀ {after : List Char}, AllSpace after →
      SpellsItems items ((prettyItems depth items).toList ++ after)
| [], depth, hFull, _, after, _ => absurd rfl hFull
| [v], depth, _, h, after, hAfter => by
    rw [Value.areExact, Bool.and_eq_true] at h
    rw [prettyItems, String.toList_append]
    exact
      .last (allSpace_breakLine depth) (spells_prettyAt v depth h.1)
        hAfter
| v :: w :: rest, depth, _, h, after, hAfter => by
    rw [Value.areExact, Bool.and_eq_true] at h
    have hRest :=
      spells_prettyItems (w :: rest) depth (List.cons_ne_nil w rest)
        h.2 hAfter
    have hText :
        (prettyItems depth (v :: w :: rest)).toList ++ after =
          (breakLine depth).toList ++ (prettyAt depth v).toList ++
            [] ++ ',' :: ((prettyItems depth (w :: rest)).toList ++
              after) := by
      rw [prettyItems]
      · simp [String.toList_append]
      · nofun
    rw [hText]
    exact
      .more (allSpace_breakLine depth) (spells_prettyAt v depth h.1)
        allSpace_nil hRest

/- So are exact fields, with blanks behind the last. -/
theorem spells_prettyFields :
    ∀ (fields : List (String × Value)) (depth : Nat),
      fields ≠ [] →
      Value.fieldsExact fields = true →
      ∀ {after : List Char}, AllSpace after →
      SpellsFields fields
        ((prettyFields depth fields).toList ++ after)
| [], depth, hFull, _, after, _ => absurd rfl hFull
| [(name, v)], depth, _, h, after, hAfter => by
    rw [Value.fieldsExact, Bool.and_eq_true] at h
    have hText :
        (prettyFields depth [(name, v)]).toList ++ after =
          (breakLine depth).toList ++ (quote name).toList ++
            ':' :: [' '] ++ (prettyAt depth v).toList ++ after := by
      rw [prettyFields]
      simp [String.toList_append]
    rw [hText]
    exact
      .last (allSpace_breakLine depth) (spellsString_quote name)
        allSpace_blank (spells_prettyAt v depth h.1) hAfter
| (name, v) :: x :: rest, depth, _, h, after, hAfter => by
    rw [Value.fieldsExact, Bool.and_eq_true] at h
    have hRest :=
      spells_prettyFields (x :: rest) depth (List.cons_ne_nil x rest)
        h.2 hAfter
    have hText :
        (prettyFields depth ((name, v) :: x :: rest)).toList ++
            after =
          (breakLine depth).toList ++ (quote name).toList ++
            ':' :: [' '] ++ (prettyAt depth v).toList ++ [] ++
            ',' :: ((prettyFields depth (x :: rest)).toList ++
              after) := by
      rw [prettyFields]
      · simp [String.toList_append]
      · nofun
    rw [hText]
    exact
      .more (allSpace_breakLine depth) (spellsString_quote name)
        allSpace_blank (spells_prettyAt v depth h.1) allSpace_nil
        hRest

end

/- The indented form of an exact value is a JSON text of it. -/
theorem spells_pretty
    {v : Value}
    (h : v.isExact = true) : Spells v (pretty v).toList :=
  spells_prettyAt v 0 h

end Json

end StorageRouting
