import StorageRouting.Proofs.Toml.Document

/-
  A document of plain fields and one table of tables is read back
  as it was written.

  Key definitions include:
    * `Toml.Section`
    * `Toml.document`
    * `Toml.Surrounds`

  Main statements:
    * `Toml.reads_lines`
    * `Toml.follow?_statements`
    * `Toml.read?_render`
-/

------------------------------------------------------------
-- Documents
------------------------------------------------------------

namespace StorageRouting

namespace Toml

/- A table that has only plain fields, under its name. -/
structure Section where
  name : String
  fields : List (String × Value)

/- The table as a field of the one that it is in. -/
def Section.field (t : Section) : String × Value :=
  (t.name, .object t.fields)

/- A document: plain fields, and then a table of tables. -/
def document
    (top : List (String × Value))
    (key : String)
    (ts : List Section) : List (String × Value) :=
  top ++ [(key, .object (ts.map Section.field))]

/- All fields are plain, and no name occurs twice among them. -/
structure PlainFields (fs : List (String × Value)) : Prop where
  plain : ∀ f ∈ fs, f.2.IsPlain
  distinct : (fs.map Prod.fst).Nodup

/- The statement that assigns a field. -/
def assignment (f : String × Value) : Statement :=
  .assign ⟨[], f.1⟩ f.2

/- The statements of a table within another one. -/
def Section.statements
    (key : String)
    (t : Section) : List Statement :=
  .table ⟨[key], t.name⟩ :: t.fields.map assignment

/- The statements of a document. -/
def documentStatements
    (top : List (String × Value))
    (key : String)
    (ts : List Section) : List Statement :=
  top.map assignment ++
    (if ts.isEmpty then [.table ⟨[], key⟩]
    else ts.flatMap (Section.statements key))

end Toml

end StorageRouting

------------------------------------------------------------
-- Writing
------------------------------------------------------------

namespace StorageRouting

namespace Toml

/- A plain field has a line of its own. -/
theorem plainLines_cons
    {f : String × Value}
    (h : f.2.IsPlain)
    (more : List (String × Value)) :
    plainLines (f :: more) = assignLine f :: plainLines more := by
  rcases f with ⟨k, v⟩
  cases h with
  | string s => rfl
  | bool b => rfl

/- A plain field is no table. -/
theorem subtableLines_cons
    {f : String × Value}
    (h : f.2.IsPlain)
    (path : List String)
    (more : List (String × Value)) :
    subtableLines path (f :: more) = subtableLines path more := by
  rcases f with ⟨k, v⟩
  cases h with
  | string s => rfl
  | bool b => rfl

theorem plainLines_plain
    {fs : List (String × Value)}
    (h : ∀ f ∈ fs, f.2.IsPlain)
    (more : List (String × Value)) :
    plainLines (fs ++ more) = fs.map assignLine ++ plainLines more := by
  induction fs with
  | nil => rfl
  | cons f fs ih =>
      have hRest :=
        ih (fun f hf => h f (List.mem_cons_of_mem _ hf))
      rw [List.cons_append, plainLines_cons (h f List.mem_cons_self),
        hRest, List.map_cons, List.cons_append]

theorem subtableLines_plain
    {fs : List (String × Value)}
    (h : ∀ f ∈ fs, f.2.IsPlain)
    (path : List String)
    (more : List (String × Value)) :
    subtableLines path (fs ++ more) = subtableLines path more := by
  induction fs with
  | nil => rfl
  | cons f fs ih =>
      have hRest :=
        ih (fun f hf => h f (List.mem_cons_of_mem _ hf))
      rw [List.cons_append,
        subtableLines_cons (h f List.mem_cons_self), hRest]

/- The lines of a table that has only plain fields. -/
theorem tableLines_section
    {t : Section}
    (h : ∀ f ∈ t.fields, f.2.IsPlain)
    (path : List String) :
    tableLines path (.object t.fields) =
      "" :: tableLine path :: t.fields.map assignLine := by
  have hLines := plainLines_plain h []
  have hTables := subtableLines_plain h path []
  rw [List.append_nil] at hLines hTables
  have hHeader : needsHeader t.fields = true := by
    unfold needsHeader
    rw [hLines]
    cases t.fields <;> simp [plainLines]
  rw [tableLines, hHeader, hLines, hTables]
  simp [plainLines, subtableLines, tableLine]

theorem plainLines_sections (ts : List Section) :
    plainLines (ts.map Section.field) = [] := by
  induction ts with
  | nil => rfl
  | cons t ts ih => exact ih

theorem reads_assignLines
    {fs : List (String × Value)}
    (h : ∀ f ∈ fs, f.2.IsPlain) :
    Reads (fs.map assignLine) (fs.map assignment) := by
  induction fs with
  | nil => exact .nil
  | cons f fs ih =>
      refine .statement (holds_assignLine (h f List.mem_cons_self)) ?_
      exact ih (fun f hf => h f (List.mem_cons_of_mem _ hf))

theorem reads_sections
    {ts : List Section}
    (h : ∀ t ∈ ts, PlainFields t.fields)
    (key : String) :
    Reads (subtableLines [key] (ts.map Section.field))
      (ts.flatMap (Section.statements key)) := by
  induction ts with
  | nil => exact .nil
  | cons t ts ih =>
      have hPlain := (h t List.mem_cons_self).plain
      have hRest :=
        ih (fun t ht => h t (List.mem_cons_of_mem _ ht))
      rw [List.map_cons, List.flatMap_cons, Section.field,
        subtableLines, tableLines_section hPlain]
      apply Reads.append _ hRest
      apply Reads.blank
      apply Reads.statement (holds_tableLine [key] t.name)
      exact reads_assignLines hPlain

/- The lines of a document hold its statements. -/
theorem reads_lines
    {top : List (String × Value)}
    {ts : List Section}
    (hTop : PlainFields top)
    (hTables : ∀ t ∈ ts, PlainFields t.fields)
    (key : String) :
    Reads
      (plainLines (document top key ts) ++
        subtableLines [] (document top key ts))
      (documentStatements top key ts) := by
  have hPlain :
      plainLines (document top key ts) = top.map assignLine := by
    rw [document, plainLines_plain hTop.plain]
    simp [plainLines]
  have hLines :
      subtableLines [] (document top key ts) =
        (if ts.isEmpty then ["", tableLine [key]] else []) ++
          subtableLines [key] (ts.map Section.field) := by
    rw [document, subtableLines_plain hTop.plain]
    simp only [subtableLines, tableLines, needsHeader,
      plainLines_sections, List.nil_append, List.append_nil,
      List.isEmpty_map, List.isEmpty_nil, Bool.not_true,
      Bool.or_false]
    rfl
  rw [hPlain, hLines, documentStatements]
  apply Reads.append (reads_assignLines hTop.plain)
  cases ts with
  | nil =>
      apply Reads.blank
      exact .statement (holds_tableLine [] key) .nil
  | cons t ts => exact reads_sections hTables key

end Toml

end StorageRouting

------------------------------------------------------------
-- Assignments
------------------------------------------------------------

namespace StorageRouting

namespace Toml

/- A field as a node of a document under construction. -/
def fieldNode (f : String × Value) : String × Node :=
  (f.1, .value f.2)

/-
  The table at a path is the inner part of some fields: what is
  changed there is changed within them.
-/
def Surrounds
    (path : List String)
    (around : List (String × Node) → List (String × Node)) : Prop :=
  ∀ change inner,
    within? .implied change path .header (around inner) =
      (change .header inner).map around

theorem surrounds_top : Surrounds [] (fun fields => fields) := by
  intro change inner
  rw [within?]
  cases change .header inner <;> rfl

theorem replaceField_append
    {key : String}
    {front : List (String × Node)}
    (h : front.lookup key = none)
    (n : Node)
    (back : List (String × Node)) :
    replaceField key n (front ++ back) =
      front ++ replaceField key n back := by
  induction front with
  | nil => rfl
  | cons f front ih =>
      rcases f with ⟨k, m⟩
      have hNe : key ≠ k := by
        rintro rfl
        simp at h
      have hOff : (key == k) = false := beq_false_of_ne hNe
      have hRest : front.lookup key = none := by
        rwa [List.lookup_cons, hOff] at h
      have hOther : ¬ k = key := fun hSame => hNe hSame.symm
      rw [List.cons_append, replaceField, if_neg hOther, ih hRest,
        List.cons_append]

theorem lookup_append_of_none
    {α : Type}
    {key : String}
    {front : List (String × α)}
    (h : front.lookup key = none)
    (back : List (String × α)) :
    (front ++ back).lookup key = back.lookup key := by
  rw [List.lookup_append, h, Option.none_or]

/- A path into the last table goes on within it. -/
theorem within?_last
    {key : String}
    {front : List (String × Node)}
    (h : front.lookup key = none)
    (change :
      Origin → List (String × Node) →
        Option (List (String × Node)))
    (path : List String)
    (outer origin : Origin)
    (inner : List (String × Node)) :
    within? .implied change (key :: path) outer
        (front ++ [(key, .table origin inner)]) =
      (within? .implied change path origin inner).map
        (fun inner => front ++ [(key, .table origin inner)]) := by
  have hFound :
      (front ++ [(key, Node.table origin inner)]).lookup key =
        some (.table origin inner) := by
    rw [lookup_append_of_none h]
    simp
  rw [within?, hFound]
  simp only [reduceCtorEq, false_and, if_false]
  cases within? .implied change path origin inner with
  | none => rfl
  | some inner' =>
      simp [replaceField_append h, replaceField]

/- A path into a table that is missing makes it. -/
theorem within?_missing
    {key : String}
    {front : List (String × Node)}
    (h : front.lookup key = none)
    (change :
      Origin → List (String × Node) →
        Option (List (String × Node)))
    (path : List String)
    (outer : Origin) :
    within? .implied change (key :: path) outer front =
      (within? .implied change path .implied []).map
        (fun inner => front ++ [(key, .table .implied inner)]) := by
  rw [within?, h]
  cases within? .implied change path .implied [] with
  | none => rfl
  | some inner =>
      have hReplace :=
        replaceField_append h (.table .implied inner) []
      rw [List.append_nil] at hReplace
      simp [hReplace, replaceField]

/- The fields of the current table are assigned one by one. -/
theorem follow?_assignments
    {path : List String}
    {around : List (String × Node) → List (String × Node)}
    (hAround : Surrounds path around)
    (fs : List (String × Value))
    (inner : List (String × Node))
    (hFresh : ∀ f ∈ fs, inner.lookup f.1 = none)
    (hDistinct : (fs.map Prod.fst).Nodup)
    (more : List Statement) :
    follow? path (around inner) (fs.map assignment ++ more) =
      follow? path (around (inner ++ fs.map fieldNode)) more := by
  induction fs generalizing inner with
  | nil => simp
  | cons f fs ih =>
      rcases f with ⟨k, v⟩
      rw [List.map_cons, List.nodup_cons] at hDistinct
      have hNew : inner.lookup k = none :=
        hFresh (k, v) List.mem_cons_self
      have hAssign :
          assign? ⟨[], k⟩ v .header inner =
            some (inner ++ [fieldNode (k, v)]) := by
        unfold assign?
        rw [within?]
        simp [hNew, fieldNode]
      have hStep := hAround (assign? ⟨[], k⟩ v) inner
      rw [hAssign, Option.map_some] at hStep
      have hRest :
          ∀ f ∈ fs,
            (inner ++ [fieldNode (k, v)]).lookup f.1 = none := by
        intro f hf
        have hOther : f.1 ≠ k := by
          rintro rfl
          exact hDistinct.1 (List.mem_map.mpr ⟨f, hf, rfl⟩)
        have hOld := hFresh f (List.mem_cons_of_mem _ hf)
        have hOff : (f.1 == k) = false := beq_false_of_ne hOther
        rw [lookup_append_of_none hOld, fieldNode, List.lookup_cons,
          hOff]
        rfl
      rw [List.map_cons, List.cons_append, assignment, follow?,
        hStep]
      simp only [Option.bind_eq_bind, Option.bind_some]
      rw [ih _ hRest hDistinct.2, List.map_cons, List.append_assoc,
        List.singleton_append]

end Toml

end StorageRouting

------------------------------------------------------------
-- Tables
------------------------------------------------------------

namespace StorageRouting

namespace Toml

/- A table as a node of a document under construction. -/
def Section.node (t : Section) : String × Node :=
  (t.name, .table .header (t.fields.map fieldNode))

theorem lookup_map_node_eq_none
    {ts : List Section}
    {name : String}
    (h : name ∉ ts.map Section.name) :
    (ts.map Section.node).lookup name = none := by
  rw [List.lookup_eq_none_iff]
  intro n hn
  rcases List.mem_map.mp hn with ⟨t, ht, rfl⟩
  simp only [Section.node, bne_iff_ne, ne_eq]
  rintro rfl
  exact h (List.mem_map_of_mem ht)

/- The last table of the last table is surrounded by both. -/
theorem surrounds_section
    {key name : String}
    {top earlier : List (String × Node)}
    (hKey : top.lookup key = none)
    (hName : earlier.lookup name = none) :
    Surrounds [key, name]
      (fun inner =>
        top ++
          [(key,
            .table .implied
              (earlier ++ [(name, .table .header inner)]))]) := by
  intro change inner
  rw [within?_last hKey, within?_last hName, within?]
  cases change .header inner <;> rfl

/-
  The statements of a table are followed after the table of tables
  was made, or make it.
-/
theorem follow?_section
    {key : String}
    {top : List (String × Node)}
    (hKey : top.lookup key = none)
    {t : Section}
    (hTable : PlainFields t.fields)
    (earlier : List (String × Node))
    (hName : earlier.lookup t.name = none)
    {fields : List (String × Node)}
    (hFields :
      fields = top ++ [(key, .table .implied earlier)] ∨
        fields = top ∧ earlier = [])
    (path : List String)
    (more : List Statement) :
    follow? path fields (t.statements key ++ more) =
      follow? [key, t.name]
        (top ++ [(key, .table .implied (earlier ++ [t.node]))])
        more := by
  have hOpened :
      openTable? ⟨[key], t.name⟩ fields =
        some
          (top ++
            [(key,
              .table .implied
                (earlier ++ [(t.name, .table .header [])]))]) := by
    unfold openTable?
    rcases hFields with rfl | ⟨rfl, rfl⟩
    · rw [within?_last hKey, within?]
      simp [hName]
    · rw [within?_missing hKey, within?]
      simp
  have hAround := surrounds_section hKey hName
  have hRun :=
    follow?_assignments hAround t.fields []
      (fun _ _ => rfl) hTable.distinct more
  rw [Section.statements, List.cons_append, follow?, hOpened]
  exact hRun

/- The statements of all tables are followed one after another. -/
theorem follow?_sections
    {key : String}
    {top : List (String × Node)}
    (hKey : top.lookup key = none)
    (ts earlier : List Section)
    (hTables : ∀ t ∈ ts, PlainFields t.fields)
    (hNames : ((earlier ++ ts).map Section.name).Nodup)
    (path : List String) :
    follow? path
        (top ++ [(key, .table .implied (earlier.map Section.node))])
        (ts.flatMap (Section.statements key)) =
      some
        (top ++
          [(key,
            .table .implied ((earlier ++ ts).map Section.node))]) := by
  induction ts generalizing earlier path with
  | nil =>
      rw [List.append_nil]
      rfl
  | cons t ts ih =>
      have hSplit : earlier ++ t :: ts = (earlier ++ [t]) ++ ts := by
        simp
      have hName :
          (earlier.map Section.node).lookup t.name = none := by
        apply lookup_map_node_eq_none
        intro hOld
        rw [List.map_append, List.map_cons] at hNames
        have hApart := (List.nodup_append.mp hNames).2.2
        exact hApart _ hOld _ List.mem_cons_self rfl
      have hTable := hTables t List.mem_cons_self
      rw [hSplit] at hNames ⊢
      rw [List.flatMap_cons,
        follow?_section hKey hTable _ hName (Or.inl rfl)]
      have hNodes :
          earlier.map Section.node ++ [t.node] =
            (earlier ++ [t]).map Section.node := by
        simp
      rw [hNodes]
      exact ih _
        (fun t ht => hTables t (List.mem_cons_of_mem _ ht)) hNames _

/- The nodes of a document. -/
def documentNodes
    (top : List (String × Value))
    (key : String)
    (ts : List Section) : List (String × Node) :=
  let origin := if ts.isEmpty then .header else .implied
  top.map fieldNode ++ [(key, .table origin (ts.map Section.node))]

/- Following the statements of a document makes its nodes. -/
theorem follow?_statements
    {top : List (String × Value)}
    {key : String}
    {ts : List Section}
    (hTop : PlainFields top)
    (hKey : key ∉ top.map Prod.fst)
    (hTables : ∀ t ∈ ts, PlainFields t.fields)
    (hNames : (ts.map Section.name).Nodup) :
    follow? [] [] (documentStatements top key ts) =
      some (documentNodes top key ts) := by
  have hFree : (top.map fieldNode).lookup key = none := by
    rw [List.lookup_eq_none_iff]
    intro n hn
    rcases List.mem_map.mp hn with ⟨f, hf, rfl⟩
    simp only [fieldNode, bne_iff_ne, ne_eq]
    rintro rfl
    exact hKey (List.mem_map_of_mem hf)
  have hStart :=
    follow?_assignments surrounds_top top []
      (fun _ _ => rfl) hTop.distinct
  rw [documentStatements, hStart, List.nil_append, documentNodes]
  cases ts with
  | nil =>
      have hOpened :
          openTable? ⟨[], key⟩ (top.map fieldNode) =
            some (top.map fieldNode ++ [(key, .table .header [])]) := by
        unfold openTable?
        rw [within?]
        simp [hFree]
      simp only [List.isEmpty_nil, if_true, follow?, hOpened]
      rfl
  | cons t ts =>
      have hTable := hTables t List.mem_cons_self
      have hRest :=
        follow?_sections hFree ts [t]
          (fun t ht => hTables t (List.mem_cons_of_mem _ ht)) hNames
      simp only [List.isEmpty_cons, Bool.false_eq_true, if_false,
        List.flatMap_cons]
      rw [follow?_section hFree hTable [] rfl (Or.inr ⟨rfl, rfl⟩)]
      exact hRest _

theorem fieldValues_append
    (xs ys : List (String × Node)) :
    fieldValues (xs ++ ys) = fieldValues xs ++ fieldValues ys := by
  induction xs with
  | nil => rfl
  | cons x xs ih => simp [fieldValues, ih]

@[simp] theorem fieldValues_map_fieldNode
    (fs : List (String × Value)) :
    fieldValues (fs.map fieldNode) = fs := by
  induction fs with
  | nil => rfl
  | cons f fs ih => simp [fieldValues, fieldNode, Node.toValue, ih]

@[simp] theorem fieldValues_map_node
    (ts : List Section) :
    fieldValues (ts.map Section.node) = ts.map Section.field := by
  induction ts with
  | nil => rfl
  | cons t ts ih =>
      simp [fieldValues, Section.node, Section.field, Node.toValue,
        ih]

/- The values of a document's nodes are its fields. -/
theorem fieldValues_documentNodes
    (top : List (String × Value))
    (key : String)
    (ts : List Section) :
    fieldValues (documentNodes top key ts) = document top key ts := by
  rw [documentNodes, fieldValues_append, fieldValues_map_fieldNode,
    document]
  simp [fieldValues, Node.toValue]

/-
  A document of plain fields and one table of tables is read back
  as it was written, whatever its keys and texts are.
-/
theorem read?_render
    {top : List (String × Value)}
    {key : String}
    {ts : List Section}
    (hTop : PlainFields top)
    (hKey : key ∉ top.map Prod.fst)
    (hTables : ∀ t ∈ ts, PlainFields t.fields)
    (hNames : (ts.map Section.name).Nodup) :
    read? (render (document top key ts)) =
      some (.object (document top key ts)) := by
  have hReads := reads_lines hTop hTables key
  have hText :
      (render (document top key ts)).toList =
        linesText
          (plainLines (document top key ts) ++
            subtableLines [] (document top key ts)) := by
    rw [render, String.toList_join, List.flatMap_map, linesText]
    simp
  have hFuel :
      (documentStatements top key ts).length <
        (linesText
          (plainLines (document top key ts) ++
            subtableLines [] (document top key ts))).length + 1 :=
    hReads.length_lt
  unfold read?
  rw [hText, hReads.dropMark_eq]
  simp only [Option.bind_eq_bind, hReads.statements hFuel,
    Option.bind_some,
    follow?_statements hTop hKey hTables hNames,
    fieldValues_documentNodes]
  rfl

end Toml

end StorageRouting
