/-
  Finite maps from names, ordered by name.

  Key definitions include:
    * `Dictionary`
    * `Dictionary.get?`
    * `Dictionary.insert`
    * `Dictionary.erase`
    * `Dictionary.keys`
-/

------------------------------------------------------------
-- The Type
------------------------------------------------------------

namespace StorageRouting

/-
  A map from names, held as a list in strictly ascending order
  of the names.
-/
structure Dictionary (α : Type) where
  entries : List (String × α)
  ordered : entries.Pairwise (fun a b => a.1 < b.1)

namespace Dictionary

variable {α β : Type}

/- The map without names. -/
def empty : Dictionary α :=
  ⟨[], List.Pairwise.nil⟩

instance : Inhabited (Dictionary α) :=
  ⟨empty⟩

instance [DecidableEq α] : DecidableEq (Dictionary α) :=
  fun a b =>
    if h : a.entries = b.entries then
      isTrue (by cases a; cases b; cases h; rfl)
    else
      isFalse (fun e => h (e ▸ rfl))

/- Maps are equal when their entries are. -/
theorem ext_entries
    {a b : Dictionary α}
    (h : a.entries = b.entries) : a = b := by
  cases a
  cases b
  cases h
  rfl

/- The value under a name. -/
def get?
    (d : Dictionary α)
    (name : String) : Option α :=
  d.entries.lookup name

/- Whether there is a value under a name. -/
def contains
    (d : Dictionary α)
    (name : String) : Bool :=
  (d.get? name).isSome

/- The names in ascending order. -/
def keys (d : Dictionary α) : List String :=
  d.entries.map Prod.fst

/- The values by ascending name. -/
def values (d : Dictionary α) : List α :=
  d.entries.map Prod.snd

/- The number of names. -/
def size (d : Dictionary α) : Nat :=
  d.entries.length

/- Whether there are no names. -/
def isEmpty (d : Dictionary α) : Bool :=
  d.entries.isEmpty

end Dictionary

end StorageRouting

------------------------------------------------------------
-- Insertion and Removal
------------------------------------------------------------

namespace StorageRouting

namespace Dictionary

variable {α β : Type}

/- Put a value in its place in an ordered list of entries. -/
def insertEntry
    (name : String)
    (a : α) :
    List (String × α) → List (String × α)
| [] => [(name, a)]
| (k, b) :: rest =>
    if name = k then (name, a) :: rest
    else if name < k then (name, a) :: (k, b) :: rest
    else (k, b) :: insertEntry name a rest

/- The names after an insertion are old ones or the new one. -/
theorem mem_insertEntry
    {name : String}
    {a : α}
    {entries : List (String × α)}
    {e : String × α}
    (h : e ∈ insertEntry name a entries) :
    e = (name, a) ∨ e ∈ entries := by
  induction entries with
  | nil => simpa [insertEntry] using h
  | cons f rest ih =>
      obtain ⟨k, b⟩ := f
      simp only [insertEntry] at h
      split at h
      · rcases List.mem_cons.mp h with h | h
        · exact Or.inl h
        · exact Or.inr (List.mem_cons_of_mem _ h)
      · split at h
        · rcases List.mem_cons.mp h with h | h
          · exact Or.inl h
          · exact Or.inr h
        · rcases List.mem_cons.mp h with h | h
          · exact Or.inr (h ▸ List.mem_cons_self)
          · rcases ih h with h | h
            · exact Or.inl h
            · exact Or.inr (List.mem_cons_of_mem _ h)

/- An insertion keeps the order. -/
theorem insertEntry_ordered
    (name : String)
    (a : α)
    {entries : List (String × α)}
    (h : entries.Pairwise (fun a b => a.1 < b.1)) :
    (insertEntry name a entries).Pairwise
      (fun a b => a.1 < b.1) := by
  induction entries with
  | nil => simp [insertEntry]
  | cons f rest ih =>
      obtain ⟨k, b⟩ := f
      have hHead := (List.pairwise_cons.mp h).1
      have hRest := (List.pairwise_cons.mp h).2
      simp only [insertEntry]
      split
      · rename_i hEq
        subst hEq
        exact List.pairwise_cons.mpr ⟨hHead, hRest⟩
      · split
        · rename_i _ hLt
          refine List.pairwise_cons.mpr ⟨?_, h⟩
          intro e he
          rcases List.mem_cons.mp he with rfl | he
          · exact hLt
          · exact String.lt_trans hLt (hHead e he)
        · rename_i hNe hNotLt
          refine List.pairwise_cons.mpr ⟨?_, ih hRest⟩
          intro e he
          rcases mem_insertEntry he with rfl | he
          · rcases String.le_total name k with hLe | hLe
            · rcases Decidable.em (k < name) with hk | hk
              · exact hk
              · exact absurd
                  (String.le_antisymm hLe (String.not_lt.mp hNotLt))
                  hNe
            · rcases Decidable.em (k < name) with hk | hk
              · exact hk
              · exact absurd
                  (String.le_antisymm (String.not_lt.mp hk)
                    (String.not_lt.mp hNotLt))
                  hNe
          · exact hHead e he

/- Put a value under a name, in place of an older one. -/
def insert
    (d : Dictionary α)
    (name : String)
    (a : α) : Dictionary α :=
  ⟨insertEntry name a d.entries,
    insertEntry_ordered name a d.ordered⟩

/- Keep the entries that satisfy a test. -/
def filter
    (d : Dictionary α)
    (p : String → α → Bool) : Dictionary α :=
  ⟨d.entries.filter (fun e => p e.1 e.2),
    List.Pairwise.filter _ d.ordered⟩

/- Remove a name. -/
def erase
    (d : Dictionary α)
    (name : String) : Dictionary α :=
  d.filter (fun k _ => k ≠ name)

/- Change all values, each with its name. -/
def mapEntries
    (d : Dictionary α)
    (f : String → α → β) : Dictionary β :=
  ⟨d.entries.map (fun e => (e.1, f e.1 e.2)),
    List.pairwise_map.mpr d.ordered⟩

/- The map of a list, the last of each name. -/
def ofList (entries : List (String × α)) : Dictionary α :=
  entries.foldl (fun d e => d.insert e.1 e.2) empty

end Dictionary

end StorageRouting

------------------------------------------------------------
-- Laws of Lookup
------------------------------------------------------------

namespace StorageRouting

namespace Dictionary

variable {α : Type}

/- Looking a name up after an insertion into a list. -/
theorem lookup_insertEntry
    (name other : String)
    (a : α)
    (entries : List (String × α)) :
    (insertEntry name a entries).lookup other =
      if other = name then some a else entries.lookup other := by
  induction entries with
  | nil =>
      by_cases h : other = name
      · simp [insertEntry, h]
      · have hb : (other == name) = false := by simp [h]
        simp [insertEntry, List.lookup_cons, hb, h]
  | cons f rest ih =>
      obtain ⟨k, b⟩ := f
      simp only [insertEntry]
      by_cases hk : name = k
      · subst hk
        by_cases h : other = name
        · subst h
          simp
        · have hb : (other == name) = false := by simp [h]
          simp [List.lookup_cons, hb, h]
      · by_cases hlt : name < k
        · by_cases h : other = name
          · subst h
            simp [hk, hlt]
          · have hb : (other == name) = false := by simp [h]
            simp [hk, hlt, List.lookup_cons, hb, h]
        · simp only [hk, hlt, if_false]
          by_cases ho : other = k
          · subst ho
            have hne : ¬ other = name := fun e => hk e.symm
            simp [hne]
          · have hb : (other == k) = false := by simp [ho]
            simp [List.lookup_cons, hb, ih]

/- A lookup after an insertion. -/
theorem get?_insert
    (d : Dictionary α)
    (name other : String)
    (a : α) :
    (d.insert name a).get? other =
      if other = name then some a else d.get? other :=
  lookup_insertEntry name other a d.entries

/- Looking a name up after a removal from a list. -/
theorem lookup_filter_ne
    (name other : String)
    (entries : List (String × α)) :
    (entries.filter (fun e => decide (e.1 ≠ name))).lookup other =
      if other = name then none else entries.lookup other := by
  induction entries with
  | nil => simp [List.lookup_nil]
  | cons f rest ih =>
      obtain ⟨k, b⟩ := f
      by_cases hk : k = name
      · subst hk
        by_cases h : other = k
        · subst h
          simpa [List.filter] using ih
        · have hb : (other == k) = false := by simp [h]
          simpa [List.filter, List.lookup_cons, hb, h] using ih
      · by_cases ho : other = k
        · subst ho
          simp [List.filter, hk]
        · have hb : (other == k) = false := by simp [ho]
          simpa [List.filter, List.lookup_cons, hk, hb] using ih

/- A lookup after a removal. -/
theorem get?_erase
    (d : Dictionary α)
    (name other : String) :
    (d.erase name).get? other =
      if other = name then none else d.get? other := by
  simpa [erase, filter, get?] using
    lookup_filter_ne name other d.entries

/- Nothing is found in the empty map. -/
theorem get?_empty (name : String) :
    (empty : Dictionary α).get? name = none :=
  rfl

/- A lookup after a change of all values. -/
theorem get?_mapEntries
    {β : Type}
    (d : Dictionary α)
    (f : String → α → β)
    (name : String) :
    (d.mapEntries f).get? name = (d.get? name).map (f name) := by
  simp only [get?, mapEntries]
  induction d.entries with
  | nil => rfl
  | cons e rest ih =>
      rcases e with ⟨k, a⟩
      by_cases h : name = k
      · simp [h]
      · have hb : (name == k) = false := by simp [h]
        simp [List.lookup_cons, hb, ih]

/- A lookup after several insertions: the last one counts. -/
theorem get?_foldl_insert
    (entries : List (String × α))
    (d : Dictionary α)
    (name : String) :
    (entries.foldl (fun d e => d.insert e.1 e.2) d).get? name =
      (entries.reverse.lookup name).or (d.get? name) := by
  induction entries generalizing d with
  | nil => rfl
  | cons e rest ih =>
      rcases e with ⟨other, a⟩
      rw [List.foldl_cons, ih, get?_insert, List.reverse_cons,
        List.lookup_append, Option.or_assoc]
      by_cases h : name = other
      · simp [h]
      · have hb : (name == other) = false := by simp [h]
        simp [h, List.lookup_cons, hb]

/-
  A lookup in the map of a list in which no name has two
  values.
-/
theorem get?_ofList_iff
    {entries : List (String × α)}
    (h :
      ∀ x ∈ entries, ∀ y ∈ entries, x.1 = y.1 → x.2 = y.2)
    {name : String}
    {a : α} :
    (ofList entries).get? name = some a ↔
      (name, a) ∈ entries := by
  rw [ofList, get?_foldl_insert, get?_empty, Option.or_none]
  constructor
  · intro hFound
    rcases List.lookup_eq_some_iff.mp hFound with
      ⟨before, after, hSplit, _⟩
    apply List.mem_reverse.mp
    rw [hSplit]
    simp
  · intro hMem
    cases hFound : entries.reverse.lookup name with
    | none =>
        have hNone :=
          List.lookup_eq_none_iff.mp hFound (name, a)
            (List.mem_reverse.mpr hMem)
        simp at hNone
    | some b =>
        rcases List.lookup_eq_some_iff.mp hFound with
          ⟨before, after, hSplit, _⟩
        have hOther : (name, b) ∈ entries := by
          apply List.mem_reverse.mp
          rw [hSplit]
          simp
        exact congrArg some (h (name, b) hOther (name, a) hMem rfl)

end Dictionary

end StorageRouting

------------------------------------------------------------
-- Laws of Values
------------------------------------------------------------

namespace StorageRouting

namespace Dictionary

variable {α : Type}

/- An entry is what is found under its name. -/
theorem get?_eq_some_iff
    {d : Dictionary α}
    {name : String}
    {a : α} :
    d.get? name = some a ↔ (name, a) ∈ d.entries := by
  constructor
  · intro h
    rcases List.lookup_eq_some_iff.mp h with
      ⟨before, after, hEntries, _⟩
    rw [hEntries]
    simp
  · intro h
    rcases List.append_of_mem h with ⟨before, after, hEntries⟩
    apply List.lookup_eq_some_iff.mpr
    refine ⟨before, after, hEntries, ?_⟩
    intro e he
    have hOrdered := d.ordered
    rw [hEntries] at hOrdered
    have hLt : e.1 < name :=
      (List.pairwise_append.mp hOrdered).2.2 e he (name, a)
        List.mem_cons_self
    have hNe : name ≠ e.1 := by
      intro hSame
      rw [hSame] at hLt
      exact String.lt_irrefl e.1 hLt
    simpa using hNe

/- The names are those under which something is found. -/
theorem mem_keys_iff
    {d : Dictionary α}
    {name : String} :
    name ∈ d.keys ↔ (d.get? name).isSome = true := by
  rw [Option.isSome_iff_exists, keys, List.mem_map]
  constructor
  · rintro ⟨⟨other, a⟩, hEntry, rfl⟩
    exact ⟨a, get?_eq_some_iff.mpr hEntry⟩
  · rintro ⟨a, h⟩
    exact ⟨(name, a), get?_eq_some_iff.mp h, rfl⟩

/- The values are what is found under the names. -/
theorem mem_values_iff
    {d : Dictionary α}
    {a : α} :
    a ∈ d.values ↔ ∃ name, d.get? name = some a := by
  rw [values, List.mem_map]
  constructor
  · rintro ⟨⟨name, b⟩, hEntry, rfl⟩
    exact ⟨name, get?_eq_some_iff.mpr hEntry⟩
  · rintro ⟨name, h⟩
    exact ⟨(name, a), get?_eq_some_iff.mp h, rfl⟩

/- A map is empty if nothing is found under any name. -/
theorem isEmpty_iff
    {d : Dictionary α} :
    d.isEmpty = true ↔ ∀ name, d.get? name = none := by
  rw [isEmpty, List.isEmpty_iff]
  constructor
  · intro h name
    rw [get?, h, List.lookup_nil]
  · intro h
    rw [List.eq_nil_iff_forall_not_mem]
    rintro ⟨name, a⟩ hEntry
    rw [← get?_eq_some_iff, h name] at hEntry
    cases hEntry

/- What is found under a name is one of the values. -/
theorem mem_values_of_get?
    {d : Dictionary α}
    {name : String}
    {a : α}
    (h : d.get? name = some a) : a ∈ d.values := by
  exact mem_values_iff.mpr ⟨name, h⟩

/- An insertion under a free name adds one entry. -/
theorem insertEntry_perm
    {name : String}
    {a : α}
    {entries : List (String × α)}
    (h : entries.lookup name = none) :
    (insertEntry name a entries).Perm ((name, a) :: entries) := by
  induction entries with
  | nil => exact List.Perm.refl _
  | cons e rest ih =>
      rcases e with ⟨k, b⟩
      have hNe : ¬ name = k := by
        intro hEq
        simp [hEq] at h
      have hRest : rest.lookup name = none := by
        have hb : (name == k) = false := by simp [hNe]
        simpa [List.lookup_cons, hb] using h
      simp only [insertEntry, hNe, if_false]
      split
      · exact List.Perm.refl _
      · exact
          ((ih hRest).cons (k, b)).trans
            (List.Perm.swap (name, a) (k, b) rest)

/- A removal takes exactly the entry of the name away. -/
theorem filter_ne_perm
    {name : String}
    {a : α}
    {entries : List (String × α)}
    (hOrdered : entries.Pairwise (fun a b => a.1 < b.1))
    (h : entries.lookup name = some a) :
    entries.Perm
      ((name, a) ::
        entries.filter (fun e => decide (e.1 ≠ name))) := by
  induction entries with
  | nil => simp at h
  | cons e rest ih =>
      rcases e with ⟨k, b⟩
      rcases List.pairwise_cons.mp hOrdered with ⟨hHead, hRest⟩
      by_cases hEq : k = name
      · subst hEq
        have hValue : b = a := by simpa using h
        have hKeep :
            rest.filter (fun e => decide (e.1 ≠ k)) = rest := by
          apply List.filter_eq_self.mpr
          intro e he
          have hLt := hHead e he
          have hNe : e.1 ≠ k := by
            intro hSame
            rw [hSame] at hLt
            exact String.lt_irrefl k hLt
          simpa using hNe
        rw [List.filter_cons_of_neg (by simp), hKeep, hValue]
      · have hb : (name == k) = false := by
          simpa using fun hSame => hEq hSame.symm
        have hFound : rest.lookup name = some a := by
          simpa [List.lookup_cons, hb] using h
        have hPerm := (ih hRest hFound).cons (k, b)
        have hSwap := hPerm.trans (List.Perm.swap (name, a) (k, b) _)
        simpa [hEq] using hSwap

/- The values after an insertion under a free name. -/
theorem values_insert_perm
    {d : Dictionary α}
    {name : String}
    {a : α}
    (h : d.get? name = none) :
    (d.insert name a).values.Perm (a :: d.values) :=
  (insertEntry_perm h).map Prod.snd

/- The values before a removal: the removed one and the rest. -/
theorem values_erase_perm
    {d : Dictionary α}
    {name : String}
    {a : α}
    (h : d.get? name = some a) :
    d.values.Perm (a :: (d.erase name).values) :=
  (filter_ne_perm d.ordered h).map Prod.snd

end Dictionary

end StorageRouting
