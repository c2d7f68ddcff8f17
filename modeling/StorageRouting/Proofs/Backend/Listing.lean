import StorageRouting.Backend.Memory
import StorageRouting.Proofs.Text.Order

/-
  Listings of a bucket in memory: which entries there are, in
  which order, and how they are cut into pages.

  Key definitions include:
    * `MemoryBucket.Lists`
    * `Ascending`
    * `ListOptions.Passes`
    * `ListOptions.passing`

  Main statements:
    * `MemoryStore.scan_eq_ofList`
    * `MemoryStore.mem_listing_iff`
    * `MemoryStore.listing_ascending`
    * `MemoryStore.cutPage_cases`
    * `ListOptions.passing_after`
-/

------------------------------------------------------------
-- Entries
------------------------------------------------------------

namespace StorageRouting

namespace MemoryBucket

/-
  The entries of a listing of the keys with a common start.  An
  object stands under its key; but if keys are grouped and a
  slash follows the start, the directory up to the first such
  slash stands for the object.
-/
inductive Lists
    (b : MemoryBucket)
    (start : String)
    (recursive : Bool) : ObjectInfo → Prop where
| object
    (rest : String)
    (o : StoredObject)
    (hFound : b.objects.get? (start ++ rest) = some o)
    (hShown : recursive = true ∨ '/' ∉ rest.toList) :
    Lists b start recursive (o.info (start ++ rest))
| directory
    (part more : String)
    (o : StoredObject)
    (hFound :
      b.objects.get? (start ++ part ++ "/" ++ more) = some o)
    (hGrouped : recursive = false)
    (hPart : '/' ∉ part.toList) :
    Lists b start recursive
      (ObjectInfo.dir (start ++ part ++ "/"))

end MemoryBucket

/- Entries in strictly ascending order of their keys. -/
def Ascending (entries : List ObjectInfo) : Prop :=
  entries.Pairwise (fun x y => x.key < y.key)

namespace MemoryStore

/- A text is cut behind its first slash. -/
theorem upToSlash?_append
    {before : List Char}
    (h : '/' ∉ before)
    (more : List Char) :
    upToSlash? (before ++ '/' :: more) = some (before ++ ['/']) := by
  have hKeep : ∀ c ∈ before, decide (c ≠ '/') = true := by
    intro c hc
    simpa using ne_of_mem_of_not_mem hc h
  rw [upToSlash?, List.dropWhile_append_of_pos hKeep,
    List.takeWhile_append_of_pos hKeep]
  simp

/- A text without a slash is not cut. -/
theorem upToSlash?_of_not_mem
    {cs : List Char}
    (h : '/' ∉ cs) : upToSlash? cs = none := by
  have hKeep : ∀ c ∈ cs, decide (c ≠ '/') = true := by
    intro c hc
    simpa using ne_of_mem_of_not_mem hc h
  rw [upToSlash?, ← List.append_nil cs,
    List.dropWhile_append_of_pos hKeep, List.dropWhile_nil]

/- The entry of an object whose key starts as asked. -/
def entryOf?
    (start : String)
    (recursive : Bool)
    (e : String × StoredObject) : Option (String × ObjectInfo) :=
  (Text.dropStart? start.toList e.1.toList).map
    (fun rest => entryOf start recursive rest e.1 e.2)

/- An object that is not grouped has its own entry. -/
theorem entryOf?_object
    {start rest : String}
    {recursive : Bool}
    (h : recursive = true ∨ '/' ∉ rest.toList)
    (o : StoredObject) :
    entryOf? start recursive (start ++ rest, o) =
      some (start ++ rest, o.info (start ++ rest)) := by
  have hRest :
      Text.dropStart? start.toList (start ++ rest).toList =
        some rest.toList := by
    rw [Text.dropStart?_eq_some_iff, String.toList_append]
  rw [entryOf?, hRest, Option.map_some]
  rcases h with rfl | hNone
  · rfl
  · cases recursive <;>
      simp [entryOf, upToSlash?_of_not_mem hNone]

/- An object that is grouped has the entry of its directory. -/
theorem entryOf?_directory
    {start part : String}
    (h : '/' ∉ part.toList)
    (more : String)
    (o : StoredObject) :
    entryOf? start false (start ++ part ++ "/" ++ more, o) =
      some
        (start ++ part ++ "/",
          ObjectInfo.dir (start ++ part ++ "/")) := by
  have hRest :
      Text.dropStart? start.toList
          (start ++ part ++ "/" ++ more).toList =
        some (part.toList ++ '/' :: more.toList) := by
    rw [Text.dropStart?_eq_some_iff]
    simp
  have hName :
      start ++ String.ofList (part.toList ++ ['/']) =
        start ++ part ++ "/" := by
    apply String.toList_inj.mp
    simp
  rw [entryOf?, hRest, Option.map_some]
  simp only [entryOf, upToSlash?_append h, hName]

/- Every key with the start is that of one of the two kinds. -/
theorem key_cases
    {start key : String}
    {rest : List Char}
    (h : key.toList = start.toList ++ rest)
    (recursive : Bool) :
    (∃ more : String,
        key = start ++ more ∧
        (recursive = true ∨ '/' ∉ more.toList)) ∨
      (∃ part more : String,
        key = start ++ part ++ "/" ++ more ∧
        recursive = false ∧
        '/' ∉ part.toList) := by
  by_cases hShown : recursive = true ∨ '/' ∉ rest
  · left
    refine ⟨String.ofList rest, ?_, by simpa using hShown⟩
    apply String.toList_inj.mp
    simpa using h
  · right
    rw [not_or, Bool.not_eq_true, not_not] at hShown
    rcases List.eq_append_cons_of_mem hShown.2 with
      ⟨before, more, rfl, hNone⟩
    refine
      ⟨String.ofList before, String.ofList more, ?_, hShown.1,
        by simpa using hNone⟩
    apply String.toList_inj.mp
    simpa using h

/- The entries of the objects of a bucket are those listed. -/
theorem mem_filterMap_entryOf?_iff
    {b : MemoryBucket}
    {start : String}
    {recursive : Bool}
    {name : String}
    {info : ObjectInfo} :
    (name, info) ∈ b.objects.entries.filterMap
        (entryOf? start recursive) ↔
      name = info.key ∧ b.Lists start recursive info := by
  rw [List.mem_filterMap]
  constructor
  · rintro ⟨⟨key, o⟩, hMem, hEntry⟩
    have hFound := Dictionary.get?_eq_some_iff.mpr hMem
    rcases Option.map_eq_some_iff.mp hEntry with ⟨rest, hRest, _⟩
    rcases key_cases (Text.dropStart?_eq_some_iff.mp hRest)
        recursive with
      ⟨more, rfl, hShown⟩ | ⟨part, more, rfl, hGrouped, hPart⟩
    · rw [entryOf?_object hShown] at hEntry
      cases hEntry
      exact ⟨rfl, .object more o hFound hShown⟩
    · subst hGrouped
      rw [entryOf?_directory hPart] at hEntry
      cases hEntry
      exact ⟨rfl, .directory part more o hFound rfl hPart⟩
  · rintro ⟨rfl, hLists⟩
    cases hLists with
    | object rest o hFound hShown =>
        exact
          ⟨_, Dictionary.get?_eq_some_iff.mp hFound,
            entryOf?_object hShown o⟩
    | directory part more o hFound hGrouped hPart =>
        subst hGrouped
        exact
          ⟨_, Dictionary.get?_eq_some_iff.mp hFound,
            entryOf?_directory hPart more o⟩

end MemoryStore

namespace MemoryBucket

/- No key stands for two entries. -/
theorem Lists.unique
    {b : MemoryBucket}
    {start : String}
    {recursive : Bool}
    {info other : ObjectInfo}
    (h : b.Lists start recursive info)
    (h' : b.Lists start recursive other)
    (hKey : info.key = other.key) : info = other := by
  cases h with
  | object rest o hFound hShown =>
      cases h' with
      | object rest' o' hFound' _ =>
          have hSame : start ++ rest = start ++ rest' := hKey
          rw [← hSame, hFound] at hFound'
          cases hFound'
          rw [hSame]
      | directory part more o' _ hGrouped hPart =>
          -- an object that is grouped has no slash after the start
          have hSame :
              (start ++ rest).toList =
                (start ++ part ++ "/").toList :=
            congrArg String.toList hKey
          simp [hGrouped] at hShown
          simp at hSame
          simp [hSame] at hShown
  | directory part more o _ hGrouped hPart =>
      cases h' with
      | object rest' o' hFound' hShown =>
          have hSame :
              (start ++ part ++ "/").toList =
                (start ++ rest').toList :=
            congrArg String.toList hKey
          simp [hGrouped] at hShown
          simp at hSame
          simp [← hSame] at hShown
      | directory part' more' o' _ _ _ =>
          exact congrArg ObjectInfo.dir hKey

/- No entry comes before the start of the listing. -/
theorem Lists.not_lt_start
    {b : MemoryBucket}
    {start : String}
    {recursive : Bool}
    {info : ObjectInfo}
    (h : b.Lists start recursive info) :
    ¬ info.key < start := by
  intro hLt
  have hLess : info.key.toList < start.toList := hLt
  cases h with
  | object rest o hFound hShown =>
      have hKey :
          (o.info (start ++ rest)).key.toList =
            start.toList ++ rest.toList := String.toList_append
      rw [hKey] at hLess
      exact Text.not_append_lt _ _ hLess
  | directory part more o hFound hGrouped hPart =>
      have hKey :
          (ObjectInfo.dir (start ++ part ++ "/")).key.toList =
            start.toList ++ (part ++ "/").toList := by
        rw [← String.toList_append, ← String.append_assoc]
        rfl
      rw [hKey] at hLess
      exact Text.not_append_lt _ _ hLess

end MemoryBucket

end StorageRouting

------------------------------------------------------------
-- Scanning
------------------------------------------------------------

namespace StorageRouting

namespace MemoryStore

/-
  The scan gathers the entries of all keys that it is given, if
  they are in order from the start on: where it ends, no later
  key starts as asked.
-/
theorem scan_eq_foldl
    (start : String)
    (recursive : Bool)
    {entries : List (String × StoredObject)}
    (hOrdered : entries.Pairwise (fun a b => a.1 < b.1))
    (hReached : ∀ e ∈ entries, ¬ e.1 < start)
    (found : Dictionary ObjectInfo) :
    scan start recursive entries found =
      (entries.filterMap (entryOf? start recursive)).foldl
        (fun d e => d.insert e.1 e.2) found := by
  induction entries generalizing found with
  | nil => rfl
  | cons e more ih =>
      rcases e with ⟨key, o⟩
      rcases List.pairwise_cons.mp hOrdered with ⟨hHead, hMore⟩
      cases hRest : Text.dropStart? start.toList key.toList with
      | none =>
          have hNot :
              ∀ rest, key.toList ≠ start.toList ++ rest := by
            intro rest hSplit
            rw [Text.dropStart?_eq_some_iff.mpr hSplit] at hRest
            cases hRest
          have hNone :
              ((key, o) :: more).filterMap
                (entryOf? start recursive) = [] := by
            rw [List.filterMap_eq_nil_iff]
            intro later hLater
            cases hEntry : entryOf? start recursive later with
            | none => rfl
            | some entry =>
                exfalso
                rcases Option.map_eq_some_iff.mp hEntry with
                  ⟨rest, hStarts, _⟩
                have hSplit :=
                  Text.dropStart?_eq_some_iff.mp hStarts
                rcases List.mem_cons.mp hLater with rfl | hLater
                · exact hNot rest hSplit
                · have hBefore : later.1.toList < key.toList := by
                    rw [hSplit]
                    exact
                      Text.append_lt_of_not_startsWith
                        (hReached (key, o) List.mem_cons_self)
                        hNot rest
                  exact
                    List.lt_asymm hBefore (hHead later hLater)
          rw [hNone]
          simp only [scan, hRest, List.foldl_nil]
      | some rest =>
          have hEntry :
              entryOf? start recursive (key, o) =
                some (entryOf start recursive rest key o) := by
            simp [entryOf?, hRest]
          have hLater :=
            ih hMore
              (fun e he => hReached e (List.mem_cons_of_mem _ he))
          rw [List.filterMap_cons_some hEntry, List.foldl_cons,
            ← hLater]
          simp only [scan, hRest]

/- In order, what is left from a start on has reached it. -/
theorem not_lt_of_mem_dropWhile
    {start : String}
    {entries : List (String × StoredObject)}
    (hOrdered : entries.Pairwise (fun a b => a.1 < b.1))
    {e : String × StoredObject}
    (h : e ∈ entries.dropWhile (fun e => e.1 < start)) :
    ¬ e.1 < start := by
  induction entries with
  | nil => simp at h
  | cons first more ih =>
      rcases List.pairwise_cons.mp hOrdered with ⟨hHead, hMore⟩
      by_cases hBefore : first.1 < start
      · rw [List.dropWhile_cons_of_pos (by simpa using hBefore)]
          at h
        exact ih hMore h
      · rw [List.dropWhile_cons_of_neg (by simpa using hBefore)]
          at h
        rcases List.mem_cons.mp h with rfl | hLater
        · exact hBefore
        · exact fun hLt =>
            hBefore (String.lt_trans (hHead e hLater) hLt)

/- What is left out before a start has no entries. -/
theorem filterMap_entryOf?_dropWhile
    (start : String)
    (recursive : Bool)
    (entries : List (String × StoredObject)) :
    (entries.dropWhile (fun e => e.1 < start)).filterMap
        (entryOf? start recursive) =
      entries.filterMap (entryOf? start recursive) := by
  induction entries with
  | nil => rfl
  | cons e more ih =>
      by_cases hBefore : e.1 < start
      · have hNone : entryOf? start recursive e = none := by
          cases hEntry : entryOf? start recursive e with
          | none => rfl
          | some entry =>
              exfalso
              rcases Option.map_eq_some_iff.mp hEntry with
                ⟨rest, hStarts, _⟩
              have hLt : e.1.toList < start.toList := hBefore
              rw [Text.dropStart?_eq_some_iff.mp hStarts] at hLt
              exact Text.not_append_lt _ _ hLt
        rw [List.dropWhile_cons_of_pos (by simpa using hBefore), ih,
          List.filterMap_cons_none hNone]
      · rw [List.dropWhile_cons_of_neg (by simpa using hBefore)]

/- A listing holds the entries of all objects, by their keys. -/
theorem scan_eq_ofList
    (b : MemoryBucket)
    (start : String)
    (recursive : Bool) :
    scan start recursive
        (b.objects.entries.dropWhile (fun e => e.1 < start))
        Dictionary.empty =
      Dictionary.ofList
        (b.objects.entries.filterMap (entryOf? start recursive)) := by
  rw [scan_eq_foldl start recursive
      (b.objects.ordered.sublist (List.dropWhile_sublist _))
      (fun _ he => not_lt_of_mem_dropWhile b.objects.ordered he),
    filterMap_entryOf?_dropWhile]
  rfl

/- What a scan found under a name is an entry of that key. -/
theorem get?_scan_iff
    {b : MemoryBucket}
    {start : String}
    {recursive : Bool}
    {name : String}
    {info : ObjectInfo} :
    (scan start recursive
          (b.objects.entries.dropWhile (fun e => e.1 < start))
          Dictionary.empty).get? name = some info ↔
      name = info.key ∧ b.Lists start recursive info := by
  rw [scan_eq_ofList, Dictionary.get?_ofList_iff,
    mem_filterMap_entryOf?_iff]
  rintro ⟨name, info⟩ hInfo ⟨other, info'⟩ hInfo' hSame
  rcases mem_filterMap_entryOf?_iff.mp hInfo with ⟨rfl, hLists⟩
  rcases mem_filterMap_entryOf?_iff.mp hInfo' with ⟨rfl, hLists'⟩
  exact hLists.unique hLists' hSame

/- The entries of a listing. -/
theorem mem_listing_iff
    {b : MemoryBucket}
    {start : String}
    {recursive : Bool}
    {info : ObjectInfo} :
    info ∈ listing b start recursive ↔
      b.Lists start recursive info := by
  unfold listing
  rw [Dictionary.mem_values_iff]
  constructor
  · rintro ⟨name, hFound⟩
    exact (get?_scan_iff.mp hFound).2
  · intro hLists
    exact ⟨info.key, get?_scan_iff.mpr ⟨rfl, hLists⟩⟩

/- A listing is in strictly ascending order. -/
theorem listing_ascending
    (b : MemoryBucket)
    (start : String)
    (recursive : Bool) :
    Ascending (listing b start recursive) := by
  unfold listing Ascending Dictionary.values
  rw [List.pairwise_map]
  refine List.Pairwise.imp_of_mem ?_ (Dictionary.ordered _)
  intro x y hx hy hLt
  have hFirst := get?_scan_iff.mp (Dictionary.get?_eq_some_iff.mpr hx)
  have hNext := get?_scan_iff.mp (Dictionary.get?_eq_some_iff.mpr hy)
  rwa [← hFirst.1, ← hNext.1]

end MemoryStore

end StorageRouting

------------------------------------------------------------
-- Pages
------------------------------------------------------------

namespace StorageRouting

namespace ListOptions

/- Whether a key comes after the place where a listing goes on. -/
def Passes
    (options : ListOptions)
    (key : String) : Prop :=
  ∀ token ∈ options.token, token < key

/- The entries that are still to be listed. -/
def passing
    (options : ListOptions)
    (entries : List ObjectInfo) : List ObjectInfo :=
  match options.token with
  | none => entries
  | some token => entries.filter (fun e => token < e.key)

/- What is still to be listed comes after that place. -/
theorem mem_passing_iff
    {options : ListOptions}
    {entries : List ObjectInfo}
    {info : ObjectInfo} :
    info ∈ options.passing entries ↔
      info ∈ entries ∧ options.Passes info.key := by
  unfold passing Passes
  cases options.token <;> simp

/- What is still to be listed is in order. -/
theorem passing_ascending
    {entries : List ObjectInfo}
    (h : Ascending entries)
    (options : ListOptions) :
    Ascending (options.passing entries) := by
  unfold passing
  cases options.token with
  | none => exact h
  | some token => exact List.Pairwise.filter _ h

/-
  What is still to be listed after a page is what came behind
  the last entry of that page.
-/
theorem passing_after
    {options : ListOptions}
    {entries before rest : List ObjectInfo}
    {last : ObjectInfo}
    (hAscending : Ascending entries)
    (hSplit : options.passing entries = before ++ last :: rest) :
    passing { options with token := some last.key } entries =
      rest := by
  have hLast : options.Passes last.key :=
    (mem_passing_iff.mp (hSplit ▸ List.mem_append_cons_self)).2
  have hSame :
      entries.filter (fun e => last.key < e.key) =
        (options.passing entries).filter
          (fun e => last.key < e.key) := by
    unfold passing
    cases hToken : options.token with
    | none => rfl
    | some token =>
        rw [List.filter_filter]
        apply List.filter_congr
        intro e _
        have hLt : token < last.key := hLast token hToken
        rw [Bool.eq_iff_iff]
        simpa using fun hAfter => String.lt_trans hLt hAfter
  have hOrder : Ascending (before ++ last :: rest) :=
    hSplit ▸ passing_ascending hAscending options
  rcases List.pairwise_append.mp hOrder with
    ⟨_, hFrom, hBefore⟩
  have hNone :
      before.filter (fun e => last.key < e.key) = [] := by
    rw [List.filter_eq_nil_iff]
    intro e he
    have hLt := hBefore e he last List.mem_cons_self
    simpa using fun hAfter => String.lt_asymm hLt hAfter
  have hAll : rest.filter (fun e => last.key < e.key) = rest := by
    rw [List.filter_eq_self]
    intro e he
    simpa using (List.pairwise_cons.mp hFrom).1 e he
  change entries.filter (fun e => last.key < e.key) = rest
  rw [hSame, hSplit, List.filter_append, hNone,
    List.filter_cons_of_neg (by simp), hAll,
    List.nil_append]

end ListOptions

namespace MemoryStore

/- A page has room for an entry. -/
theorem pageSize_pos (asked : Option Int) : 0 < pageSize asked := by
  unfold pageSize defaultPage
  split
  · split <;> omega
  · omega

/-
  A page holds all that is still to be listed and is the last,
  or it holds the first entries of it, and the listing goes on
  after the last of these.
-/
theorem cutPage_cases
    (options : ListOptions)
    (entries : List ObjectInfo) :
    cutPage options entries =
        ⟨options.passing entries, false, none⟩ ∨
      ∃ before last rest,
        options.passing entries = before ++ last :: rest ∧
        rest ≠ [] ∧
        cutPage options entries =
          ⟨before ++ [last], true, some last.key⟩ := by
  have hPage :
      cutPage options entries =
        let left := options.passing entries
        let size := pageSize options.maxKeys
        { items := left.take size
          truncated := size < left.length
          token :=
            if size < left.length then
              (left.take size).getLast?.map (·.key)
            else none } := by
    cases hToken : options.token <;>
      simp [cutPage, ListOptions.passing, hToken]
  have hSize := pageSize_pos options.maxKeys
  rw [hPage]
  dsimp only
  generalize options.passing entries = left
  generalize pageSize options.maxKeys = size at hSize
  by_cases hMore : size < left.length
  · right
    have hTaken : left.take size ≠ [] := by
      intro hNone
      have hLength := congrArg List.length hNone
      simp only [List.length_take, List.length_nil] at hLength
      omega
    refine
      ⟨(left.take size).dropLast, (left.take size).getLast hTaken,
        left.drop size, ?_, ?_, ?_⟩
    · rw [List.append_cons, List.dropLast_concat_getLast,
        List.take_append_drop]
    · intro hNone
      have hLength := congrArg List.length hNone
      simp only [List.length_drop, List.length_nil] at hLength
      omega
    · simp [hMore, List.dropLast_concat_getLast,
        List.getLast?_eq_some_getLast hTaken]
  · left
    have hAll : left.take size = left :=
      List.take_of_length_le (by omega)
    simp [hMore, hAll]

end MemoryStore

end StorageRouting
