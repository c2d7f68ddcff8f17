import Mathlib.Data.Finset.Dedup
import Mathlib.Data.Finset.Order
import StorageRouting.Proofs.Backend.ReferencePage

/-
  A walk through the directories of a bucket in memory: each
  listing groups what lies deeper, and the walk goes down into
  every directory that it is shown.  It ends, and it comes to
  the objects that a listing without grouping has, in the same
  order.

  Key definitions include:
    * `Errand`
    * `StorageClient.explore?`
    * `MemoryBucket.inside`
    * `MemoryBucket.IsDirectory`

  Main statements:
    * `MemoryBucket.listing_eq_flatMap`
    * `StorageClient.explore?_of_directories`
    * `StorageClient.explore?_memory`
    * `StorageClient.explore_meets_all_once`
-/

------------------------------------------------------------
-- Errands
------------------------------------------------------------

namespace StorageRouting

/- An action that may not come to an end. -/
abbrev Errand (σ α : Type) :=
  ExceptT Error (StateT σ Option) α

namespace Errand

variable {σ α β : Type} {s : σ}

/- An action that comes to an end. -/
def ofAction (a : Action σ α) : Errand σ α :=
  fun s => some (a s)

theorem bind_of_ok
    {a : Errand σ α}
    {x : α}
    {s' : σ}
    (h : a s = some (.ok x, s'))
    (f : α → Errand σ β) : (a >>= f) s = f x s' := by
  change (a s).bind _ = _
  rw [h]
  rfl

/-
  If one after the other succeeds and leaves the state as it
  is, then so do all together.
-/
theorem mapM_of_ok
    {visit : α → Errand σ β}
    {P : α → β → Prop}
    {xs : List α}
    (h : ∀ x ∈ xs, ∃ y, visit x s = some (.ok y, s) ∧ P x y) :
    ∃ ys,
      xs.mapM visit s = some (.ok ys, s) ∧
      List.Forall₂ P xs ys := by
  induction xs with
  | nil => exact ⟨[], by rw [List.mapM_nil]; rfl, .nil⟩
  | cons x xs ih =>
      rcases h x List.mem_cons_self with ⟨y, hVisit, hFirst⟩
      rcases ih (fun x' hx => h x' (List.mem_cons_of_mem x hx)) with
        ⟨ys, hAll, hOthers⟩
      refine ⟨y :: ys, ?_, .cons hFirst hOthers⟩
      rw [List.mapM_cons, bind_of_ok hVisit, bind_of_ok hAll]
      rfl

end Errand

end StorageRouting

------------------------------------------------------------
-- Exploring
------------------------------------------------------------

namespace StorageRouting

namespace StorageClient

variable {σ : Type}

/- What is asked for to list everything below a start. -/
def below
    (maxKeys : Option Int)
    (recursive : Bool)
    (start : Option String) : ListOptions :=
  { keyStart := start, maxKeys, token := none, recursive }

/-
  All entries that are met below a start: those that are listed
  there, and behind each directory among them what is met below
  its key in the same way.
-/
def explore?
    (c : StorageClient)
    (r : Route σ)
    (asked : Option String)
    (maxKeys : Option Int)
    (start : Option String) : Errand σ (List ObjectInfo) := do
  let entries ←
    Errand.ofAction (c.listAll r asked (below maxKeys false start))
  let met ← entries.mapM (fun info => do
    if info.isDir then
      let inside ←
        c |>.explore? r asked maxKeys (some info.key)
      return info :: inside
    else return [info])
  return met.flatten
partial_fixpoint

end StorageClient

end StorageRouting

------------------------------------------------------------
-- Directories
------------------------------------------------------------

namespace StorageRouting

namespace MemoryBucket

/- The objects that an entry of a grouped listing stands for. -/
def inside
    (b : MemoryBucket)
    (info : ObjectInfo) : List ObjectInfo :=
  if info.isDir then MemoryStore.listing b info.key true
  else [info]

/- A directory has a key that ends with a slash, and objects. -/
def IsDirectory
    (b : MemoryBucket)
    (key : String) : Prop :=
  (∃ text, key = text ++ "/") ∧
  ∃ more o, b.objects.get? (key ++ more) = some o

variable {b : MemoryBucket} {start : String}

theorem lists_recursive_iff
    {info : ObjectInfo} :
    b.Lists start true info ↔
      ∃ rest o,
        b.objects.get? (start ++ rest) = some o ∧
        info = o.info (start ++ rest) := by
  constructor
  · intro h
    cases h with
    | object rest o hFound _ => exact ⟨rest, o, hFound, rfl⟩
    | directory _ _ _ _ hGrouped _ => cases hGrouped
  · rintro ⟨rest, o, hFound, rfl⟩
    exact .object rest o hFound (Or.inl rfl)

/- The objects that the entries of a listing stand for. -/
theorem mem_inside_iff
    {info : ObjectInfo} :
    (∃ entry, b.Lists start false entry ∧ info ∈ b.inside entry) ↔
      b.Lists start true info := by
  constructor
  · rintro ⟨entry, hEntry, hInfo⟩
    cases hEntry with
    | object rest o hFound _ =>
        rw [inside, if_neg (by simp [StoredObject.info]),
          List.mem_singleton] at hInfo
        exact lists_recursive_iff.mpr ⟨rest, o, hFound, hInfo⟩
    | directory part more o _ _ _ =>
        rw [inside, if_pos (by rfl), MemoryStore.mem_listing_iff,
          lists_recursive_iff] at hInfo
        rcases hInfo with ⟨rest, o', hFound, rfl⟩
        have hKey :
            (ObjectInfo.dir (start ++ part ++ "/")).key ++ rest =
              start ++ (part ++ "/" ++ rest) := by
          simp [ObjectInfo.dir, String.append_assoc]
        rw [hKey] at hFound ⊢
        exact lists_recursive_iff.mpr ⟨_, o', hFound, rfl⟩
  · intro hInfo
    rcases lists_recursive_iff.mp hInfo with ⟨rest, o, hFound, rfl⟩
    rcases MemoryStore.key_cases String.toList_append false with
      ⟨more, hKey, hShown⟩ | ⟨part, more, hKey, _, hPart⟩
    · rw [hKey] at hFound ⊢
      refine ⟨_, .object more o hFound hShown, ?_⟩
      rw [inside, if_neg (by simp [StoredObject.info])]
      exact List.mem_singleton_self _
    · rw [hKey] at hFound ⊢
      refine ⟨_, .directory part more o hFound rfl hPart, ?_⟩
      rw [inside, if_pos (by rfl), MemoryStore.mem_listing_iff]
      exact lists_recursive_iff.mpr ⟨more, o, hFound, rfl⟩

/-
  No other entry of a grouped listing has a key that begins
  with that of a directory: it would have been grouped there.
-/
theorem not_startsWith_directory
    {part : String}
    (hPart : '/' ∉ part.toList)
    {entry : ObjectInfo}
    (hEntry : b.Lists start false entry)
    (hOther : entry.key ≠ start ++ part ++ "/")
    (more : List Char) :
    entry.key.toList ≠ (start ++ part ++ "/").toList ++ more := by
  intro hSame
  cases hEntry with
  | object rest o _ hShown =>
      have hKey :
          (start ++ rest).toList =
            (start ++ part ++ "/").toList ++ more :=
        hSame
      simp only [String.toList_append, List.append_assoc,
        List.append_cancel_left_eq] at hKey
      simp [hKey] at hShown
  | directory part' more' o _ _ hPart' =>
      have hKey :
          (start ++ part' ++ "/").toList =
            (start ++ part ++ "/").toList ++ more :=
        hSame
      simp only [String.toList_append, List.append_assoc,
        List.append_cancel_left_eq] at hKey
      -- both are cut behind their first slash
      have hCut := MemoryStore.upToSlash?_append hPart' []
      have hCut' := MemoryStore.upToSlash?_append hPart more
      have hText :
          part'.toList ++ '/' :: [] = part.toList ++ '/' :: more :=
        hKey
      rw [hText, hCut', Option.some.injEq] at hCut
      have hEnd : part'.toList ++ ['/'] = part.toList ++ ['/'] :=
        hText.trans hCut.symm
      apply hOther
      apply String.toList_inj.mp
      simpa [ObjectInfo.dir] using hEnd

/- What an entry stands for begins with its key. -/
theorem startsWith_of_mem_inside
    {info x : ObjectInfo}
    (h : x ∈ b.inside info) :
    ∃ rest, x.key.toList = info.key.toList ++ rest := by
  rw [inside] at h
  split at h
  · rw [MemoryStore.mem_listing_iff, lists_recursive_iff] at h
    rcases h with ⟨rest, o, _, rfl⟩
    exact ⟨rest.toList, String.toList_append⟩
  · rw [List.mem_singleton] at h
    rw [h]
    exact ⟨[], (List.append_nil _).symm⟩

/-
  Of two entries of a grouped listing, what the first stands
  for comes before what the second stands for.
-/
theorem inside_lt_inside
    {first next : ObjectInfo}
    (hFirst : b.Lists start false first)
    (hNext : b.Lists start false next)
    (hLess : first.key < next.key)
    {x y : ObjectInfo}
    (hx : x ∈ b.inside first)
    (hy : y ∈ b.inside next) : x.key < y.key := by
  rcases startsWith_of_mem_inside hy with ⟨later, hLater⟩
  change x.key.toList < y.key.toList
  rw [hLater]
  apply Text.lt_append_of_lt
  rcases startsWith_of_mem_inside hx with ⟨rest, hRest⟩
  cases hFirst with
  | object more o _ _ =>
      rw [inside, if_neg (by simp [StoredObject.info]),
        List.mem_singleton] at hx
      rw [hx]
      exact hLess
  | directory part more o _ _ hPart =>
      rw [hRest]
      apply Text.append_lt_of_not_startsWith
      · exact String.lt_asymm hLess
      · apply not_startsWith_directory hPart hNext
        intro hSame
        rw [hSame] at hLess
        exact String.lt_irrefl _ hLess

/-
  A listing without grouping holds what the entries of a grouped
  listing stand for, in the same order.
-/
theorem listing_eq_flatMap
    (b : MemoryBucket)
    (start : String) :
    MemoryStore.listing b start true =
      (MemoryStore.listing b start false).flatMap b.inside := by
  apply Ascending.ext (MemoryStore.listing_ascending b start true)
  · rw [Ascending, List.pairwise_flatMap]
    constructor
    · intro info hInfo
      rw [inside]
      split
      · exact MemoryStore.listing_ascending b info.key true
      · exact List.pairwise_singleton _ info
    · refine
        List.Pairwise.imp_of_mem ?_
          (MemoryStore.listing_ascending b start false)
      intro first next hFirst hNext hLess x hx y hy
      exact
        inside_lt_inside (MemoryStore.mem_listing_iff.mp hFirst)
          (MemoryStore.mem_listing_iff.mp hNext) hLess hx hy
  · intro info
    simp only [List.mem_flatMap, MemoryStore.mem_listing_iff]
    exact mem_inside_iff.symm

/- A directory of a grouped listing lies below its start. -/
theorem Lists.isDirectory
    {info : ObjectInfo}
    (h : b.Lists start false info)
    (hDir : info.isDir = true) :
    b.IsDirectory info.key ∧ start.length < info.key.length := by
  cases h with
  | object rest o _ _ => cases hDir
  | directory part more o hFound _ _ =>
      refine ⟨⟨⟨start ++ part, rfl⟩, more, o, hFound⟩, ?_⟩
      simp only [ObjectInfo.dir, String.length_append]
      have hSlash : "/".length = 1 := rfl
      omega

/- There is a length that no key of a bucket exceeds. -/
theorem exists_longest (b : MemoryBucket) :
    ∃ n, ∀ key o, b.objects.get? key = some o → key.length ≤ n := by
  rcases Finset.exists_le
      (b.objects.entries.map (fun e => e.1.length)).toFinset with
    ⟨n, hLongest⟩
  refine ⟨n, ?_⟩
  intro key o hFound
  apply hLongest
  rw [List.mem_toFinset]
  exact
    List.mem_map_of_mem (Dictionary.get?_eq_some_iff.mp hFound)

end MemoryBucket

end StorageRouting

------------------------------------------------------------
-- What Is Met
------------------------------------------------------------

namespace StorageRouting

namespace MemoryBucket

/-
  What is met among the directories of a bucket: these objects
  in this order, and nothing else but directories.
-/
structure Meets
    (b : MemoryBucket)
    (objects met : List ObjectInfo) : Prop where
  objects : met.filter (fun info => !info.isDir) = objects
  directories :
    ∀ info ∈ met, info.isDir = true → b.IsDirectory info.key

namespace Meets

variable {b : MemoryBucket}

/- An object is met itself. -/
theorem object
    {info : ObjectInfo}
    (h : info.isDir = false) : b.Meets (b.inside info) [info] where
  objects := by simp [inside, h]
  directories := by simp [h]

/- A directory is met, and what is met in it. -/
theorem directory
    {info : ObjectInfo}
    (hDir : info.isDir = true)
    (hKey : b.IsDirectory info.key)
    {met : List ObjectInfo}
    (h : b.Meets (MemoryStore.listing b info.key true) met) :
    b.Meets (b.inside info) (info :: met) where
  objects := by
    rw [inside, if_pos hDir, List.filter_cons_of_neg (by simp [hDir])]
    exact h.objects
  directories := by
    intro other hOther hOtherDir
    rcases List.mem_cons.mp hOther with rfl | hInside
    · exact hKey
    · exact h.directories other hInside hOtherDir

/- What is met of one entry after the other. -/
theorem flatten
    {entries : List ObjectInfo}
    {met : List (List ObjectInfo)}
    (h :
      List.Forall₂ (fun info found => b.Meets (b.inside info) found)
        entries met) :
    b.Meets (entries.flatMap b.inside) met.flatten := by
  induction h with
  | nil => exact ⟨by simp, by simp⟩
  | cons hFirst _ ih =>
      rw [List.flatMap_cons, List.flatten_cons]
      constructor
      · rw [List.filter_append, hFirst.objects, ih.objects]
      · intro info hInfo hDir
        rcases List.mem_append.mp hInfo with hHere | hLater
        · exact hFirst.directories info hHere hDir
        · exact ih.directories info hLater hDir

end Meets

end MemoryBucket

namespace StorageClient

variable {σ : Type}
variable {slot : Slot σ MemoryStore} {s : σ} {bucket : String}
variable {b : MemoryBucket}
variable {now : σ → Moment} {config : BackendConfig}
variable {c : StorageClient} {r : Route σ} {asked : Option String}

/- Everything below a start is listed page by page. -/
theorem listAll_below
    (hOpen : (slot.get s).closed = false)
    (hBucket : (slot.get s).buckets.get? bucket = some b)
    (hTarget :
      c.target r asked =
        .ok (MemoryStore.adapter slot now config, bucket))
    (maxKeys : Option Int)
    (recursive : Bool)
    (start : Option String) :
    c.listAll r asked (below maxKeys recursive start) s =
      (.ok (MemoryStore.listing b (start.getD "") recursive), s) := by
  have hServes : (slot.get s).Serves bucket :=
    ⟨hOpen, Option.isSome_of_mem hBucket⟩
  have hEntries :
      (slot.get s).entries bucket (below maxKeys recursive start) =
        MemoryStore.listing b (start.getD "") recursive := by
    rw [MemoryStore.entries, hBucket]
    rfl
  rw [ListWalk.listAll_memory hServes hTarget, hEntries]
  rfl

/-
  The walk below a start ends, if it ends below each directory
  that is listed there; and it meets what there is below the
  start, if it meets what there is below each of these.
-/
theorem explore?_of_directories
    (hOpen : (slot.get s).closed = false)
    (hBucket : (slot.get s).buckets.get? bucket = some b)
    (hTarget :
      c.target r asked =
        .ok (MemoryStore.adapter slot now config, bucket))
    (maxKeys : Option Int)
    (start : Option String)
    (hDirectories :
      ∀ info,
        b.Lists (start.getD "") false info →
        info.isDir = true →
        ∃ met,
          c.explore? r asked maxKeys (some info.key) s =
            some (.ok met, s) ∧
          b.Meets (MemoryStore.listing b info.key true) met) :
    ∃ met,
      c.explore? r asked maxKeys start s = some (.ok met, s) ∧
      b.Meets (MemoryStore.listing b (start.getD "") true) met := by
  have hVisit :
      ∀ info ∈ MemoryStore.listing b (start.getD "") false,
        ∃ found,
          (if info.isDir then do
            let inside ← c.explore? r asked maxKeys (some info.key)
            return info :: inside
          else return [info] : Errand σ (List ObjectInfo)) s =
            some (.ok found, s) ∧
          b.Meets (b.inside info) found := by
    intro info hInfo
    have hLists := MemoryStore.mem_listing_iff.mp hInfo
    by_cases hDir : info.isDir = true
    · rcases hDirectories info hLists hDir with ⟨met, hMet, hMeets⟩
      refine
        ⟨info :: met, ?_,
          .directory hDir (hLists.isDirectory hDir).1 hMeets⟩
      rw [if_pos hDir, Errand.bind_of_ok hMet]
      rfl
    · refine ⟨[info], ?_, .object (by simpa using hDir)⟩
      rw [if_neg hDir]
      rfl
  have hList :
      Errand.ofAction
          (c.listAll r asked (below maxKeys false start)) s =
        some
          (.ok (MemoryStore.listing b (start.getD "") false), s) :=
    congrArg some
      (listAll_below hOpen hBucket hTarget maxKeys false start)
  rcases Errand.mapM_of_ok hVisit with ⟨found, hAll, hEach⟩
  refine ⟨found.flatten, ?_, ?_⟩
  · rw [explore?, Errand.bind_of_ok hList, Errand.bind_of_ok hAll]
    rfl
  · rw [MemoryBucket.listing_eq_flatMap]
    exact MemoryBucket.Meets.flatten hEach

/-
  The walk through the directories below a start ends, and it
  meets the objects that are listed below it without grouping.
-/
theorem explore?_memory
    (hOpen : (slot.get s).closed = false)
    (hBucket : (slot.get s).buckets.get? bucket = some b)
    (hTarget :
      c.target r asked =
        .ok (MemoryStore.adapter slot now config, bucket))
    (maxKeys : Option Int)
    {n : Nat}
    (start : Option String)
    (hLongest :
      ∀ key o,
        b.objects.get? key = some o →
        key.length ≤ (start.getD "").length + n) :
    ∃ met,
      c.explore? r asked maxKeys start s = some (.ok met, s) ∧
      b.Meets (MemoryStore.listing b (start.getD "") true) met := by
  -- each directory leaves less room for what is behind its key
  induction n using Nat.strongRecOn generalizing start with
  | ind n ih =>
      apply explore?_of_directories hOpen hBucket hTarget
      intro info hLists hDir
      rcases hLists.isDirectory hDir with
        ⟨⟨_, more, o, hFound⟩, hLonger⟩
      have hRoom :
          info.key.length ≤ (start.getD "").length + n := by
        have hLength := hLongest _ o hFound
        rw [String.length_append] at hLength
        omega
      apply
        ih ((start.getD "").length + n - info.key.length) (by omega)
          (some info.key)
      intro key o' hFound'
      have hLength := hLongest key o' hFound'
      rw [Option.getD_some]
      omega

/-
  To walk through the directories of a bucket in memory is to
  meet each of its objects once.  Below every start, with pages
  of any size: the walk ends; the objects that it meets are
  those of the listing without grouping, in the same order, and
  each is met once; and every directory that it meets has a key
  that ends with a slash, and an object whose key begins with
  that.
-/
theorem explore_meets_all_once
    (hOpen : (slot.get s).closed = false)
    (hBucket : (slot.get s).buckets.get? bucket = some b)
    (hTarget :
      c.target r asked =
        .ok (MemoryStore.adapter slot now config, bucket))
    (maxKeys : Option Int)
    (start : Option String) :
    ∃ met objects,
      c.explore? r asked maxKeys start s = some (.ok met, s) ∧
      c.listAll r asked (below maxKeys true start) s =
        (.ok objects, s) ∧
      met.filter (fun info => !info.isDir) = objects ∧
      (∀ info ∈ objects, met.count info = 1) ∧
      ∀ info ∈ met,
        info.isDir = true →
        (∃ text, info.key = text ++ "/") ∧
        ∃ more o, b.objects.get? (info.key ++ more) = some o := by
  rcases b.exists_longest with ⟨n, hLongest⟩
  have hRoom :
      ∀ key o,
        b.objects.get? key = some o →
        key.length ≤ (start.getD "").length + n := by
    intro key o hFound
    have hLength := hLongest key o hFound
    omega
  rcases explore?_memory hOpen hBucket hTarget maxKeys start
      hRoom with
    ⟨met, hMet, hMeets⟩
  refine
    ⟨met, _, hMet,
      listAll_below hOpen hBucket hTarget maxKeys true start,
      hMeets.objects, ?_, hMeets.directories⟩
  intro info hInfo
  have hObject : (!info.isDir) = true := by
    rw [← hMeets.objects] at hInfo
    exact (List.mem_filter.mp hInfo).2
  have hCount :
      (met.filter (fun info => !info.isDir)).count info =
        met.count info :=
    List.count_filter hObject
  rw [← hCount, hMeets.objects]
  apply List.count_eq_one_of_mem _ hInfo
  exact
    (MemoryStore.listing_ascending b (start.getD "") true).nodup

/-
  Keys that begin or end with a slash, have empty segments, or
  are the name of a directory.
-/
def sampleKeys : List String :=
  ["/", "//x", "a", "a/", "a//b", "a/b", "a/b/", "a/b/c"]

/-
  The walk meets each object of such a bucket once, and only
  directories besides.
-/
theorem sampleKeys_explored :
    let m := ListWalk.sampleStore sampleKeys
    let options := below (some 2) true none
    ∃ b met objects,
      m.closed = false ∧
      m.buckets.get? "own" = some b ∧
      standard.target ListWalk.sampleRoute (some "own") =
        .ok
          (MemoryStore.alone default
            { BackendConfig.blank with name := "one" }, "own") ∧
      standard.explore? ListWalk.sampleRoute (some "own") (some 2)
          none m =
        some (.ok met, m) ∧
      standard.listAll ListWalk.sampleRoute (some "own") options m =
        (.ok objects, m) ∧
      met.filter (fun info => !info.isDir) = objects ∧
      ∀ info ∈ objects, met.count info = 1 := by
  intro m options
  have hThere : (m.buckets.get? "own").isSome = true := by decide
  rcases Option.isSome_iff_exists.mp hThere with ⟨b, hBucket⟩
  have hOpen : (Slot.whole.get m).closed = false := by decide
  have hTarget :
      standard.target ListWalk.sampleRoute (some "own") =
        .ok
          (MemoryStore.alone default
            { BackendConfig.blank with name := "one" }, "own") := by
    rfl
  rcases explore_meets_all_once hOpen hBucket hTarget (some 2)
      none with
    ⟨met, objects, hMet, hAll, hSame, hOnce, _⟩
  exact
    ⟨b, met, objects, hOpen, hBucket, hTarget, hMet, hAll, hSame,
      hOnce⟩

end StorageClient

end StorageRouting
