import Mathlib.Data.List.Forall2
import StorageRouting.Console.Table

/-
  What the text of a table holds: below its header there are the
  lines of its rows, one row after the other, and in the lines of
  a row there are all of its cells.

  Key definitions include:
    * `Table.ShowsRow`

  Main statements:
    * `Text.joinWith_splitAll`
    * `Table.showsRow_rowLines`
    * `Table.text_shows_rows`
-/

------------------------------------------------------------
-- Joined Texts
------------------------------------------------------------

namespace StorageRouting

namespace Text

theorem joinWith_cons
    {rest : List String}
    (h : rest ≠ [])
    (sep s : String) :
    joinWith sep (s :: rest) = s ++ sep ++ joinWith sep rest := by
  cases rest with
  | nil => exact absurd rfl h
  | cons s' rest => rfl

theorem splitAll_ne_nil
    (sep : Char)
    (cs : List Char) : splitAll sep cs ≠ [] := by
  cases cs with
  | nil => exact List.cons_ne_nil _ _
  | cons c cs =>
      unfold splitAll
      split
      · exact List.cons_ne_nil _ _
      · split <;> exact List.cons_ne_nil _ _

/- What was cut out of a text is the text, with the cuts between. -/
theorem joinWith_splitAll
    (sep : Char)
    (cs : List Char) :
    (joinWith (String.singleton sep)
      ((splitAll sep cs).map String.ofList)).toList = cs := by
  induction cs with
  | nil => simp [splitAll, joinWith]
  | cons c cs ih =>
      have hSome := splitAll_ne_nil sep cs
      unfold splitAll
      split
      · rename_i hSame
        have hPieces :
            (splitAll sep cs).map String.ofList ≠ [] := by
          simpa using hSome
        rw [List.map_cons, joinWith_cons hPieces, String.toList_append,
          ih, hSame]
        simp
      · cases hSplit : splitAll sep cs with
        | nil => exact absurd hSplit hSome
        | cons first rest =>
            rw [hSplit] at ih
            -- the character goes in front of the first piece
            cases rest with
            | nil => simpa [joinWith] using ih
            | cons second rest => simpa [joinWith] using ih

/- A text that is joined with others is a part of all of them. -/
theorem infix_joinWith
    {s : String}
    {ss : List String}
    (h : s ∈ ss)
    (sep : String) : s.toList <:+: (joinWith sep ss).toList := by
  induction ss with
  | nil => cases h
  | cons s' rest ih =>
      by_cases hRest : rest = []
      · subst hRest
        rw [List.mem_singleton.mp h]
        exact List.infix_rfl
      · rw [joinWith_cons hRest, String.toList_append,
          String.toList_append]
        rcases List.mem_cons.mp h with rfl | hMem
        · rw [List.append_assoc]
          exact (List.prefix_append _ _).isInfix
        · exact (ih hMem).trans (List.suffix_append _ _).isInfix

end Text

end StorageRouting

------------------------------------------------------------
-- Rows
------------------------------------------------------------

namespace StorageRouting

namespace Table

/-
  Lines that show a row: every cell is cut at its ends of lines,
  and each piece is a part of the line of its number.
-/
def ShowsRow
    (row lines : List String) : Prop :=
  ∀ cell ∈ row, ∃ pieces,
    pieces ≠ [] ∧
    Text.joinWith "\n" pieces = cell ∧
    ∀ (k : Nat) (piece : String),
      pieces[k]? = some piece →
      ∃ line, lines[k]? = some line ∧ piece.toList <:+: line.toList

theorem le_foldl_max
    {n start : Nat}
    {ns : List Nat}
    (h : n ≤ start ∨ n ∈ ns) : n ≤ ns.foldl max start := by
  induction ns generalizing start with
  | nil => exact h.resolve_right List.not_mem_nil
  | cons n' rest ih =>
      apply ih
      rcases h with hStart | hMem
      · exact .inl (Nat.le_trans hStart (Nat.le_max_left _ _))
      · rcases List.mem_cons.mp hMem with rfl | hRest
        · exact .inl (Nat.le_max_right _ _)
        · exact .inr hRest

/- A piece of a cell is in its line, whatever it is filled up with. -/
theorem infix_rowLine
    {widths : List Nat}
    {row : List (List String)}
    {column k : Nat}
    {pieces : List String}
    {piece : String}
    (hColumn : column < widths.length)
    (hPieces : row[column]? = some pieces)
    (hPiece : pieces[k]? = some piece) :
    piece.toList <:+: (rowLine widths row k).toList := by
  have hCell :
      " " ++ padded widths[column] piece ++ " " ∈
        widths.zipIdx.map (fun x =>
          " " ++
            padded x.1
              ((((row[x.2]?).getD [])[k]?).getD "") ++ " ") := by
    apply List.mem_map.mpr
    refine ⟨(widths[column], column), ?_, ?_⟩
    · exact List.mk_mem_zipIdx_iff_getElem?.mpr (by simp [hColumn])
    · simp [hPieces, hPiece]
  have hPadded :
      piece.toList <:+:
        (" " ++ padded widths[column] piece ++ " ").toList := by
    unfold padded
    simp only [String.toList_append]
    rw [← List.append_assoc, List.append_assoc]
    exact ⟨_, _, rfl⟩
  have hLine := hPadded.trans (Text.infix_joinWith hCell " ")
  unfold rowLine
  simp only [String.toList_append]
  exact hLine.trans ⟨_, _, rfl⟩

/- The lines of a row show it, if there are enough columns. -/
theorem showsRow_rowLines
    {widths : List Nat}
    {row : List String}
    (h : row.length ≤ widths.length) :
    ShowsRow row (rowLines widths row) := by
  intro cell hCell
  have hJoined : Text.joinWith "\n" (cellLines cell) = cell :=
    String.toList_inj.mp (Text.joinWith_splitAll '\n' cell.toList)
  have hSome : cellLines cell ≠ [] := by
    have hSplit := Text.splitAll_ne_nil '\n' cell.toList
    simpa [cellLines] using hSplit
  refine ⟨cellLines cell, hSome, hJoined, ?_⟩
  intro k piece hPiece
  rcases List.getElem?_of_mem hCell with ⟨column, hColumn⟩
  have hHeight :
      k < ((row.map cellLines).map List.length).foldl max
        (min 1 widths.length) := by
    rcases List.getElem?_eq_some_iff.mp hPiece with ⟨hk, _⟩
    apply Nat.lt_of_lt_of_le hk
    apply le_foldl_max
    exact
      .inr
        (List.mem_map_of_mem (List.mem_map_of_mem hCell))
  refine ⟨rowLine widths (row.map cellLines) k, ?_, ?_⟩
  · simp only [rowLines, List.getElem?_map, List.getElem?_range hHeight,
      Option.map_some]
  · have hWide : column < widths.length := by
      rcases List.getElem?_eq_some_iff.mp hColumn with ⟨hLt, _⟩
      exact Nat.lt_of_lt_of_le hLt h
    refine infix_rowLine hWide ?_ hPiece
    rw [List.getElem?_map, hColumn, Option.map_some]

/- A row has no more cells than the table has columns. -/
theorem length_le_columnCount
    {t : Table}
    {row : List String}
    (h : row ∈ t.rows) : row.length ≤ t.widths.length := by
  rw [widths, List.length_map, List.length_range]
  apply le_foldl_max
  exact .inr (List.mem_map_of_mem (List.mem_cons_of_mem t.header h))

/-
  In the text of a table there are lines for each row, in order,
  and they show all of its cells.
-/
theorem text_shows_rows (t : Table) :
    ∃ above blocks below,
      t.text =
          Text.joinWith "\n"
            (above ++ blocks.flatten ++ below) ∧
        List.Forall₂ ShowsRow t.rows blocks := by
  let w := t.widths
  refine
    ⟨[border w '┌' '─' '┐'] ++ rowLines w t.header ++
        [border w '╞' '═' '╡'],
      t.rows.map (rowLines w), [border w '└' '─' '┘'], ?_, ?_⟩
  · rw [text, List.flatMap_def]
  · rw [List.forall₂_map_right_iff, List.forall₂_same]
    intro row hRow
    exact showsRow_rowLines (length_le_columnCount hRow)

end Table

end StorageRouting
