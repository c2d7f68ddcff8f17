import Mathlib.Data.List.Infix
import StorageRouting.Console.Listing

/-
  The summary of a listing: how many objects there are, and their
  exact size.  There is a summary as long as none of the sizes on
  the way has more than 64 bits, and then it is exact; otherwise
  there is none, and the command breaks off.

  Key definitions include:
    * `ListSummary.exactBytes`
    * `ListSummary.Fits`
    * `ListSummary.add`

  Main statements:
    * `ListSummary.foldlM_addSize?_iff`
    * `ListSummary.of?_eq_some_iff`
    * `ListSummary.fits_iff_of_nonneg`
    * `BucketListing.summary_exact_within_width`
-/

------------------------------------------------------------
-- Exact Sizes
------------------------------------------------------------

namespace StorageRouting

namespace ListSummary

/- The entries that count. -/
def files (items : List ObjectInfo) : List ObjectInfo :=
  items.filter (fun o => !o.isDir)

/- What an entry adds to the size: a directory adds nothing. -/
def counted (o : ObjectInfo) : Int :=
  if o.isDir then 0 else o.size.getD 0

/- The size of all entries that count, however large it is. -/
def exactBytes : List ObjectInfo → Int
| [] => 0
| o :: rest => counted o + exactBytes rest

/-
  All totals on the way through entries have 64 bits, from the
  one that they are added to up to the last one.
-/
def Fits
    (start : Int)
    (items : List ObjectInfo) : Prop :=
  ∀ part, part <+: items →
    Width.isSigned 64 (start + exactBytes part) = true

/- The summary of two listings of which these are the summaries. -/
def add (a b : ListSummary) : ListSummary :=
  ⟨a.objects + b.objects, a.bytes + b.bytes⟩

variable {start : Int} {o : ObjectInfo} {items : List ObjectInfo}

theorem files_cons_of_dir
    (h : o.isDir = true)
    (rest : List ObjectInfo) : files (o :: rest) = files rest := by
  simp [files, h]

theorem files_cons_of_file
    (h : o.isDir = false)
    (rest : List ObjectInfo) :
    files (o :: rest) = o :: files rest := by
  simp [files, h]

theorem counted_of_file (h : o.isDir = false) :
    counted o = o.size.getD 0 := by
  rw [counted, h, if_neg Bool.false_ne_true]

theorem exactBytes_append (xs ys : List ObjectInfo) :
    exactBytes (xs ++ ys) = exactBytes xs + exactBytes ys := by
  induction xs with
  | nil => exact (Int.zero_add _).symm
  | cons o rest ih =>
      rw [List.cons_append, exactBytes, exactBytes, ih,
        Int.add_assoc]

theorem Fits.isSigned_start
    (h : Fits start items) : Width.isSigned 64 start = true := by
  have hFirst := h [] List.nil_prefix
  rwa [exactBytes, Int.add_zero] at hFirst

theorem fits_nil_iff :
    Fits start [] ↔ Width.isSigned 64 start = true := by
  refine ⟨Fits.isSigned_start, ?_⟩
  intro hStart part hPart
  rw [List.prefix_nil.mp hPart, exactBytes, Int.add_zero]
  exact hStart

/- The totals after the first entry are those from the next one. -/
theorem fits_cons_iff
    {rest : List ObjectInfo} :
    Fits start (o :: rest) ↔
      Width.isSigned 64 start = true ∧
        Fits (start + counted o) rest := by
  constructor
  · intro h
    refine ⟨h.isSigned_start, ?_⟩
    intro part hPart
    have hLonger :=
      h (o :: part) (List.cons_prefix_cons.mpr ⟨rfl, hPart⟩)
    rwa [exactBytes, ← Int.add_assoc] at hLonger
  · rintro ⟨hStart, hRest⟩ part hPart
    rcases List.prefix_cons_iff.mp hPart with rfl | ⟨tail, rfl, hTail⟩
    · rw [exactBytes, Int.add_zero]
      exact hStart
    · rw [exactBytes, ← Int.add_assoc]
      exact hRest tail hTail

/-
  Sizes are added up as long as all totals have 64 bits, and their
  sum is the exact one.
-/
theorem foldlM_addSize?_iff
    (hStart : Width.isSigned 64 start = true)
    (total : Int) :
    (files items).foldlM addSize? start = some total ↔
      Fits start items ∧ total = start + exactBytes items := by
  induction items generalizing start with
  | nil =>
      rw [fits_nil_iff, exactBytes, Int.add_zero, and_iff_right hStart,
        eq_comm]
      exact Option.some_inj
  | cons o rest ih =>
      rw [fits_cons_iff, and_iff_right hStart, exactBytes,
        ← Int.add_assoc]
      cases hDir : o.isDir with
      | true =>
          have hNothing : counted o = 0 := by
            rw [counted, hDir, if_pos rfl]
          rw [files_cons_of_dir hDir, hNothing, Int.add_zero]
          exact ih hStart
      | false =>
          rw [files_cons_of_file hDir, List.foldlM_cons, addSize?,
            ← counted_of_file hDir]
          -- the next total decides whether there are any others
          cases hNext : Width.isSigned 64 (start + counted o) with
          | true => exact ih hNext
          | false =>
              refine iff_of_false nofun ?_
              rintro ⟨hFits, _⟩
              exact
                Bool.false_ne_true
                  (hNext.symm.trans hFits.isSigned_start)

end ListSummary

end StorageRouting

------------------------------------------------------------
-- Summaries
------------------------------------------------------------

namespace StorageRouting

namespace ListSummary

variable {items : List ObjectInfo}

/-
  There is a summary exactly if all totals have 64 bits, and it
  counts the objects and has their exact size.
-/
theorem of?_eq_some_iff
    {s : ListSummary} :
    of? items = some s ↔
      Fits 0 items ∧
        s.objects = items.countP (fun o => !o.isDir) ∧
        s.bytes = exactBytes items := by
  have hSum :
      ∀ total : Int,
        (files items).foldlM addSize? 0 = some total ↔
          Fits 0 items ∧ total = exactBytes items := by
    intro total
    rw [foldlM_addSize?_iff rfl, Int.zero_add]
  have hCount :
      items.countP (fun o => !o.isDir) = (files items).length :=
    List.countP_eq_length_filter
  rcases s with ⟨objects, bytes⟩
  change
    ((files items).foldlM addSize? 0).bind
        (fun total =>
          some (mk (files items).length total)) =
      some (mk objects bytes) ↔ _
  rw [Option.bind_eq_some_iff, hCount]
  constructor
  · rintro ⟨total, hTotal, hSame⟩
    cases hSame
    rcases (hSum bytes).mp hTotal with ⟨hFits, hExact⟩
    exact ⟨hFits, rfl, hExact⟩
  · rintro ⟨hFits, rfl, hExact⟩
    exact ⟨bytes, (hSum bytes).mpr ⟨hFits, hExact⟩, rfl⟩

theorem of?_eq_none_iff_not_fits :
    of? items = none ↔ ¬ Fits 0 items := by
  constructor
  · intro hNone hFits
    have hSummary :
        of? items =
          some ⟨items.countP (fun o => !o.isDir), exactBytes items⟩ :=
      of?_eq_some_iff.mpr ⟨hFits, rfl, rfl⟩
    cases hNone.symm.trans hSummary
  · intro hFits
    cases hSummary : of? items with
    | none => rfl
    | some s => exact absurd (of?_eq_some_iff.mp hSummary).1 hFits

/- There is none if one of the totals has more than 64 bits. -/
theorem of?_eq_none_iff :
    of? items = none ↔
      ∃ part, part <+: items ∧
        Width.isSigned 64 (exactBytes part) = false := by
  rw [of?_eq_none_iff_not_fits, Fits]
  simp only [Int.zero_add, not_forall, Bool.not_eq_true, exists_prop]

/- A directory is not counted. -/
theorem of?_files (items : List ObjectInfo) :
    of? (files items) = of? items := by
  have hFiles : files (files items) = files items := by
    simp [files]
  unfold of?
  rw [← files, ← files, hFiles]

/- Listings that are put together have the sum of the summaries. -/
theorem eq_add_of_append
    {xs ys : List ObjectInfo}
    {a b c : ListSummary}
    (ha : of? xs = some a)
    (hb : of? ys = some b)
    (hc : of? (xs ++ ys) = some c) : c = a.add b := by
  rcases of?_eq_some_iff.mp ha with ⟨_, haObjects, haBytes⟩
  rcases of?_eq_some_iff.mp hb with ⟨_, hbObjects, hbBytes⟩
  rcases of?_eq_some_iff.mp hc with ⟨_, hcObjects, hcBytes⟩
  rw [List.countP_append, ← haObjects, ← hbObjects] at hcObjects
  rw [exactBytes_append, ← haBytes, ← hbBytes] at hcBytes
  rcases c with ⟨objects, bytes⟩
  rw [add, ← hcObjects, ← hcBytes]

theorem exactBytes_nonneg
    (h : ∀ o ∈ items, 0 ≤ o.size.getD 0) :
    0 ≤ exactBytes items := by
  induction items with
  | nil => exact Int.le_refl 0
  | cons o rest ih =>
      have hRest : 0 ≤ exactBytes rest :=
        ih fun o' ho => h o' (List.mem_cons_of_mem o ho)
      have hFirst : 0 ≤ counted o := by
        unfold counted
        split
        · exact Int.le_refl 0
        · exact h o List.mem_cons_self
      exact Int.add_nonneg hFirst hRest

/- Of sizes that are no less than zero only the last total counts. -/
theorem fits_iff_of_nonneg
    (h : ∀ o ∈ items, 0 ≤ o.size.getD 0) :
    Fits 0 items ↔ Width.isSigned 64 (exactBytes items) = true := by
  constructor
  · intro hFits
    have hLast := hFits items (List.prefix_refl items)
    rwa [Int.zero_add] at hLast
  · rintro hLast part ⟨rest, rfl⟩
    have hPart : 0 ≤ exactBytes part :=
      exactBytes_nonneg fun o ho =>
        h o (List.mem_append_left rest ho)
    have hRest : 0 ≤ exactBytes rest :=
      exactBytes_nonneg fun o ho =>
        h o (List.mem_append_right part ho)
    rw [exactBytes_append] at hLast
    simp only [Width.isSigned, Bool.and_eq_true, decide_eq_true_eq]
      at hLast ⊢
    omega

end ListSummary

end StorageRouting

------------------------------------------------------------
-- Listings
------------------------------------------------------------

namespace StorageRouting

namespace BucketListing

theorem of?_eq_none_iff
    {place : Place}
    {items : List ObjectInfo}
    {truncated : Bool} :
    of? place items truncated = none ↔
      ListSummary.of? items = none := by
  unfold of?
  split
  · rename_i s hSome
    have hOther : some s ≠ none := nofun
    exact iff_of_false nofun (hSome ▸ hOther)
  · rename_i hNone
    exact iff_of_true rfl hNone

theorem items_of_of?
    {place : Place}
    {items : List ObjectInfo}
    {truncated : Bool}
    {l : BucketListing}
    (h : of? place items truncated = some l) :
    l.items = items := by
  unfold of? at h
  split at h
  · cases h
    rfl
  · cases h

/-
  What a listing says of entries, in its summary and in its
  document: how many objects there are, and the exact sum of their
  sizes.  There is a listing exactly if the sizes of every initial
  part of the entries have a sum of 64 bits; of sizes that are no
  less than zero, the sum of all decides.  Directories change
  nothing, and the summaries of two listings add up to that of
  both.
-/
theorem summary_exact_within_width
    (place : Place)
    (items : List ObjectInfo)
    (truncated : Bool) :
    let exact := ListSummary.exactBytes
    (of? place items truncated = none ↔
        ∃ part, part <+: items ∧
          Width.isSigned 64 (exact part) = false) ∧
      ((∀ o ∈ items, 0 ≤ o.size.getD 0) →
        (of? place items truncated = none ↔
          Width.isSigned 64 (exact items) = false)) ∧
      (∀ l,
        of? place items truncated = some l →
        l.items = items ∧
          l.summary.objects = items.countP (fun o => !o.isDir) ∧
          l.summary.bytes = exact items ∧
          ∃ document,
            l.toValue.field? "summary" = some document ∧
              document.field? "total_objects" =
                some (.nat l.summary.objects) ∧
              document.field? "total_size_bytes" =
                some (.int l.summary.bytes)) ∧
      ListSummary.of? (ListSummary.files items) =
        ListSummary.of? items ∧
      ∀ more a b c,
        ListSummary.of? items = some a →
        ListSummary.of? more = some b →
        ListSummary.of? (items ++ more) = some c →
        c = a.add b := by
  intro exact
  refine ⟨?_, ?_, ?_, ListSummary.of?_files items, ?_⟩
  · rw [of?_eq_none_iff]
    exact ListSummary.of?_eq_none_iff
  · intro hNonneg
    rw [of?_eq_none_iff, ListSummary.of?_eq_none_iff_not_fits,
      ListSummary.fits_iff_of_nonneg hNonneg, Bool.not_eq_true]
  · intro l hListing
    have hItems := items_of_of? hListing
    rcases ListSummary.of?_eq_some_iff.mp l.summary_eq with
      ⟨_, hObjects, hBytes⟩
    rw [hItems] at hObjects hBytes
    exact
      ⟨hItems, hObjects, hBytes, l.summary.toValue, rfl, rfl, rfl⟩
  · intro more a b c
    exact ListSummary.eq_add_of_append

end BucketListing

namespace ListSummary

/-
  It is not so that there is always a summary with the exact size:
  two objects whose sizes have 64 bits may be too large together.
-/
theorem not_always_exact :
    ¬ ∀ items : List ObjectInfo,
        (∀ o ∈ items, Width.isSigned 64 (o.size.getD 0) = true) →
        ∃ s,
          of? items = some s ∧
            s.objects = items.countP (fun o => !o.isDir) ∧
            s.bytes = exactBytes items := by
  intro hAll
  rcases hAll [.file "a" 9223372036854775807, .file "b" 1]
      (by decide) with ⟨s, hSummary, _⟩
  cases hSummary

end ListSummary

end StorageRouting
