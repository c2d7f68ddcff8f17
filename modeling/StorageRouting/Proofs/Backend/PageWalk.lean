import Mathlib.Data.List.Nodup
import StorageRouting.Proofs.Backend.Listing
import StorageRouting.Proofs.Backend.StoreCall

/-
  Walks through the pages of a bucket in memory, while others
  change the bucket between the pages and while nobody does.

  Key definitions include:
    * `MemoryStore.Serves`
    * `MemoryStore.Lists`
    * `ListWalk.among`
    * `ListWalk.Sweeps`

  Main statements:
    * `ListWalk.step_memory`
    * `ListWalk.among_sweeps`
    * `ListWalk.drain?_memory`
    * `ListWalk.find?_memory`
    * `ListWalk.pages_cover_bucket`
-/

------------------------------------------------------------
-- Buckets That Are Served
------------------------------------------------------------

namespace StorageRouting

namespace MemoryStore

/- An open store serves the buckets that it has. -/
def Serves
    (m : MemoryStore)
    (bucket : String) : Prop :=
  m.closed = false ∧ m.buckets.contains bucket = true

instance (m : MemoryStore) (bucket : String) :
    Decidable (m.Serves bucket) :=
  inferInstanceAs (Decidable (_ ∧ _))

/- The entries that a store has for a listing of a bucket. -/
def Lists
    (m : MemoryStore)
    (bucket : String)
    (options : ListOptions)
    (info : ObjectInfo) : Prop :=
  ∃ b,
    m.buckets.get? bucket = some b ∧
    b.Lists (options.keyStart.getD "") options.recursive info

/- The entries in the order in which they are listed. -/
def entries
    (m : MemoryStore)
    (bucket : String)
    (options : ListOptions) : List ObjectInfo :=
  match m.buckets.get? bucket with
  | some b =>
      listing b (options.keyStart.getD "") options.recursive
  | none => []

theorem mem_entries_iff
    {m : MemoryStore}
    {bucket : String}
    {options : ListOptions}
    {info : ObjectInfo} :
    info ∈ m.entries bucket options ↔
      m.Lists bucket options info := by
  unfold entries Lists
  cases m.buckets.get? bucket with
  | none => simp
  | some b => simp [mem_listing_iff]

theorem entries_ascending
    (m : MemoryStore)
    (bucket : String)
    (options : ListOptions) :
    Ascending (m.entries bucket options) := by
  unfold entries
  cases m.buckets.get? bucket with
  | none => exact List.Pairwise.nil
  | some b => exact listing_ascending b _ _

/- A bucket that is served is listed page by page. -/
theorem list_of_serves
    {m : MemoryStore}
    {bucket : String}
    (h : m.Serves bucket)
    (options : ListOptions) :
    m.list bucket options =
      .ok (cutPage options (m.entries bucket options)) := by
  rcases h with ⟨hOpen, hBucket⟩
  rcases Option.isSome_iff_exists.mp hBucket with ⟨b, hFound⟩
  apply (list_eq_ok_iff hOpen).mpr
  exact ⟨b, hFound, by rw [entries, hFound]⟩

/- An open store serves the bucket of an object that it has. -/
theorem serves_of_objectAt
    {m : MemoryStore}
    (hOpen : m.closed = false)
    {bucket key : String}
    {o : StoredObject}
    (h : m.objectAt bucket key = some o) : m.Serves bucket := by
  refine ⟨hOpen, ?_⟩
  rw [← aclAt_isSome]
  exact aclAt_isSome_of_objectAt (Option.isSome_of_mem h)

/- An object is listed under its key if it is not grouped. -/
theorem lists_of_objectAt
    {m : MemoryStore}
    {bucket rest : String}
    {options : ListOptions}
    {o : StoredObject}
    (h :
      m.objectAt bucket (options.keyStart.getD "" ++ rest) =
        some o)
    (hShown :
      options.recursive = true ∨ '/' ∉ rest.toList) :
    m.Lists bucket options
      (o.info (options.keyStart.getD "" ++ rest)) := by
  rcases Option.bind_eq_some_iff.mp h with ⟨b, hBucket, hFound⟩
  exact ⟨b, hBucket, .object rest o hFound hShown⟩

/- No entry comes before the start of the listing. -/
theorem not_lt_of_lists
    {m : MemoryStore}
    {bucket : String}
    {options : ListOptions}
    {info : ObjectInfo}
    (h : m.Lists bucket options info) :
    ¬ info.key < options.keyStart.getD "" := by
  rcases h with ⟨b, _, hLists⟩
  exact hLists.not_lt_start

end MemoryStore

end StorageRouting

------------------------------------------------------------
-- Orders of Entries
------------------------------------------------------------

namespace StorageRouting

/- Entries in strictly ascending order of the bytes of keys. -/
def InByteOrder (entries : List ObjectInfo) : Prop :=
  entries.Pairwise (fun x y => Text.utf8 x.key < Text.utf8 y.key)

theorem inByteOrder_iff
    {entries : List ObjectInfo} :
    InByteOrder entries ↔ Ascending entries := by
  simp only [InByteOrder, Ascending, Text.lt_iff_utf8_lt]

namespace Ascending

/- In order, no key occurs twice. -/
theorem count_eq_one
    {entries : List ObjectInfo}
    (h : Ascending entries)
    {info : ObjectInfo}
    (hMem : info ∈ entries) :
    (entries.map (·.key)).count info.key = 1 := by
  have hOnce : (entries.map (·.key)).Nodup := by
    rw [List.Nodup, List.pairwise_map]
    refine List.Pairwise.imp ?_ h
    intro x y hLt hSame
    rw [hSame] at hLt
    exact String.lt_irrefl y.key hLt
  exact
    List.count_eq_one_of_mem hOnce (List.mem_map_of_mem hMem)

/- In order, what is not after an entry is up to it. -/
theorem mem_append_of_not_lt
    {before rest : List ObjectInfo}
    {last info : ObjectInfo}
    (h : Ascending (before ++ last :: rest))
    (hMem : info ∈ before ++ last :: rest)
    (hNot : ¬ last.key < info.key) :
    info ∈ before ++ [last] := by
  rw [List.append_cons] at h hMem
  rcases List.mem_append.mp hMem with hUpTo | hRest
  · exact hUpTo
  · exact
      absurd
        ((List.pairwise_append.mp h).2.2 last
          List.mem_concat_self info hRest)
        hNot

end Ascending

namespace MemoryStore

/- The first page holds the entry that no other comes before. -/
theorem mem_cutPage_of_least
    {options : ListOptions}
    (hFirst : options.token = none)
    {entries : List ObjectInfo}
    (hAscending : Ascending entries)
    {info : ObjectInfo}
    (hMem : info ∈ entries)
    (hLeast : ∀ other ∈ entries, ¬ other.key < info.key) :
    info ∈ (cutPage options entries).items := by
  have hAll : options.passing entries = entries := by
    rw [ListOptions.passing, hFirst]
  rcases cutPage_cases options entries with
    hLast | ⟨before, last, rest, hSplit, _, hMore⟩
  · rw [hLast, hAll]
    exact hMem
  · rw [hAll] at hSplit
    subst hSplit
    rw [hMore]
    exact
      hAscending.mem_append_of_not_lt hMem
        (hLeast last List.mem_append_cons_self)

end MemoryStore

end StorageRouting

------------------------------------------------------------
-- Walks Among Writers
------------------------------------------------------------

namespace StorageRouting

namespace ListWalk

variable {σ : Type}

/-
  A walk whose pages are asked for in one state after the
  other, whatever led from each state to the next: the answers,
  each with the state that it was asked for in, and how the
  walk would go on.
-/
def among
    (store : ObjectStore σ)
    (bucket : String) :
    List σ → ListWalk →
      List (σ × Except Error ListPage) × ListWalk
| [], walk => ([], walk)
| s :: states, walk =>
    match step store bucket walk s with
    | (none, walk, _) => ([], walk)
    | (some page, walk, _) =>
        let (requests, walk) := among store bucket states walk
        ((s, page) :: requests, walk)

/- Pages as answers to requests. -/
def answers
    (taken : List (σ × ListPage)) :
    List (σ × Except Error ListPage) :=
  taken.map (fun t => (t.1, .ok t.2))

/- The entries of all pages. -/
def yielded (taken : List (σ × ListPage)) : List ObjectInfo :=
  taken.flatMap (·.2.items)

/-
  Pages that sweep a listing from a place on: they are in
  order, hold what was there when they were taken, and if the
  walk has ended, hold each entry once that was there all the
  time.
-/
structure Sweeps
    (slot : Slot σ MemoryStore)
    (bucket : String)
    (options : ListOptions)
    (taken : List (σ × ListPage))
    (walk : ListWalk) : Prop where
  ordered : InByteOrder (yielded taken)
  listed :
    ∀ t ∈ taken, ∀ info ∈ t.2.items,
      (slot.get t.1).Lists bucket options info ∧
      options.Passes info.key
  complete :
    walk = none →
      ∀ key, options.Passes key →
        (∀ t ∈ taken, ∃ info,
          (slot.get t.1).Lists bucket options info ∧
          info.key = key) →
        ((yielded taken).map (·.key)).count key = 1

/-
  One page of a bucket that is served: it holds what is left to
  be listed, or the start of it up to an entry, and the walk
  goes on after that entry.
-/
theorem step_memory
    {slot : Slot σ MemoryStore}
    {s : σ}
    {bucket : String}
    (h : (slot.get s).Serves bucket)
    (now : σ → Moment)
    (options : ListOptions) :
    let entries := (slot.get s).entries bucket options
    let next :=
      step (MemoryStore.objectStore slot now) bucket
        (some options) s
    next =
        (some (.ok ⟨options.passing entries, false, none⟩), none,
          s) ∨
      ∃ before last,
        let more := { options with token := some last.key }
        options.passing entries =
            before ++ last :: more.passing entries ∧
          next =
            (some
                (.ok ⟨before ++ [last], true, some last.key⟩),
              some more, s) := by
  have hPage :
      (MemoryStore.objectStore slot now).list bucket options s =
        (.ok (MemoryStore.cutPage options
          ((slot.get s).entries bucket options)), s) :=
    congrArg (·, s) (MemoryStore.list_of_serves h options)
  have hAscending :=
    (slot.get s).entries_ascending bucket options
  dsimp only
  simp only [step, hPage]
  rcases MemoryStore.cutPage_cases options
      ((slot.get s).entries bucket options) with
    hLast | ⟨before, last, rest, hLeft, _, hMore⟩
  · left
    rw [hLast]
    rfl
  · right
    refine ⟨before, last, ?_, ?_⟩
    · rw [ListOptions.passing_after hAscending hLeft]
      exact hLeft
    · rw [hMore]
      rfl

end ListWalk

namespace ListWalk.Sweeps

variable {σ : Type}
variable {slot : Slot σ MemoryStore} {s : σ}
variable {bucket : String} {options : ListOptions}

/- No pages sweep nothing, and the walk has not ended. -/
theorem nil :
    Sweeps slot bucket options [] (some options) where
  ordered := List.Pairwise.nil
  listed := by simp
  complete := by simp

/- The last page holds all that is left. -/
theorem last
    {page : ListPage}
    (h :
      page.items =
        options.passing ((slot.get s).entries bucket options)) :
    Sweeps slot bucket options [(s, page)] none := by
  have hAscending :=
    ListOptions.passing_ascending
      ((slot.get s).entries_ascending bucket options) options
  have hYielded :
      yielded [(s, page)] =
        options.passing ((slot.get s).entries bucket options) := by
    simp [yielded, h]
  refine ⟨?_, ?_, ?_⟩
  · rw [hYielded]
    exact inByteOrder_iff.mpr hAscending
  · intro t ht info hInfo
    rw [List.mem_singleton] at ht
    subst ht
    rw [h, ListOptions.mem_passing_iff,
      MemoryStore.mem_entries_iff] at hInfo
    exact hInfo
  · intro _ key hPasses hStays
    rcases hStays (s, page) List.mem_cons_self with
      ⟨info, hLists, rfl⟩
    rw [hYielded]
    apply hAscending.count_eq_one
    exact
      ListOptions.mem_passing_iff.mpr
        ⟨MemoryStore.mem_entries_iff.mpr hLists, hPasses⟩

/-
  A page that goes on, and pages that sweep what comes after
  its last entry.
-/
theorem cons
    {before rest : List ObjectInfo}
    {entry : ObjectInfo}
    (hLeft :
      options.passing ((slot.get s).entries bucket options) =
        before ++ entry :: rest)
    {page : ListPage}
    (hItems : page.items = before ++ [entry])
    {taken : List (σ × ListPage)}
    {walk : ListWalk}
    (h :
      Sweeps slot bucket
        { options with token := some entry.key } taken walk) :
    Sweeps slot bucket options ((s, page) :: taken) walk := by
  have hLeftAscending : Ascending (before ++ entry :: rest) :=
    hLeft ▸
      ListOptions.passing_ascending
        ((slot.get s).entries_ascending bucket options) options
  have hListed :
      ∀ info ∈ before ++ [entry],
        (slot.get s).Lists bucket options info ∧
        options.Passes info.key := by
    intro info hInfo
    rw [← MemoryStore.mem_entries_iff,
      ← ListOptions.mem_passing_iff, hLeft, List.append_cons]
    exact List.mem_append_left rest hInfo
  have hAfter :
      ∀ key, entry.key < key → options.Passes key := by
    intro key hLt token hToken
    exact
      String.lt_trans
        ((hListed entry List.mem_concat_self).2 token hToken) hLt
  have hLater :
      ∀ info ∈ yielded taken, entry.key < info.key := by
    intro info hInfo
    rcases List.mem_flatMap.mp hInfo with ⟨t, ht, hInfo⟩
    exact (h.listed t ht info hInfo).2 entry.key rfl
  have hYielded :
      yielded ((s, page) :: taken) =
        (before ++ [entry]) ++ yielded taken := by
    simp [yielded, hItems]
  have hAscending : Ascending (yielded ((s, page) :: taken)) := by
    rw [List.append_cons] at hLeftAscending
    rcases List.pairwise_append.mp hLeftAscending with
      ⟨hPage, _, _⟩
    rw [hYielded]
    refine
      List.pairwise_append.mpr
        ⟨hPage, inByteOrder_iff.mp h.ordered, ?_⟩
    intro x hx y hy
    rcases List.mem_append.mp hx with hBefore | hEntry
    · exact
        String.lt_trans
          ((List.pairwise_append.mp hPage).2.2 x hBefore entry
            List.mem_cons_self)
          (hLater y hy)
    · rw [List.mem_singleton] at hEntry
      subst hEntry
      exact hLater y hy
  refine ⟨inByteOrder_iff.mpr hAscending, ?_, ?_⟩
  · intro t ht info hInfo
    rcases List.mem_cons.mp ht with rfl | ht
    · rw [hItems] at hInfo
      exact hListed info hInfo
    · rcases h.listed t ht info hInfo with ⟨hLists, hPasses⟩
      exact ⟨hLists, hAfter info.key (hPasses entry.key rfl)⟩
  · intro hEnded key hPasses hStays
    have hMem :
        ∃ info ∈ yielded ((s, page) :: taken),
          info.key = key := by
      rw [hYielded]
      by_cases hLt : entry.key < key
      · have hCount :=
          h.complete hEnded key
            (by simpa [ListOptions.Passes] using hLt)
            (fun t ht => hStays t (List.mem_cons_of_mem _ ht))
        have hFound :
            key ∈ (yielded taken).map (·.key) := by
          apply List.count_pos_iff.mp
          omega
        rcases List.mem_map.mp hFound with ⟨info, hInfo, hKey⟩
        exact ⟨info, List.mem_append_right _ hInfo, hKey⟩
      · rcases hStays (s, page) List.mem_cons_self with
          ⟨info, hLists, rfl⟩
        have hInfo : info ∈ before ++ entry :: rest := by
          rw [← hLeft, ListOptions.mem_passing_iff,
            MemoryStore.mem_entries_iff]
          exact ⟨hLists, hPasses⟩
        exact
          ⟨info,
            List.mem_append_left _
              (hLeftAscending.mem_append_of_not_lt hInfo hLt),
            rfl⟩
    rcases hMem with ⟨info, hInfo, rfl⟩
    exact hAscending.count_eq_one hInfo

end ListWalk.Sweeps

namespace ListWalk

variable {σ : Type}

/-
  Whatever happens to the bucket between the pages, they sweep
  the listing.
-/
theorem among_sweeps
    (slot : Slot σ MemoryStore)
    (now : σ → Moment)
    (bucket : String)
    {states : List σ}
    (h : ∀ s ∈ states, (slot.get s).Serves bucket)
    (options : ListOptions) :
    ∃ taken walk,
      among (MemoryStore.objectStore slot now) bucket states
          (some options) =
        (answers taken, walk) ∧
      Sweeps slot bucket options taken walk := by
  induction states generalizing options with
  | nil => exact ⟨[], some options, rfl, Sweeps.nil⟩
  | cons s states ih =>
      have hServes := h s List.mem_cons_self
      rcases step_memory hServes now options with
        hStep | ⟨before, last, hLeft, hStep⟩
      · refine
          ⟨[(s, ⟨_, false, none⟩)], none, ?_, Sweeps.last rfl⟩
        -- there is no step after the last page
        cases states <;> simp only [among, hStep] <;> rfl
      · rcases ih (fun t ht => h t (List.mem_cons_of_mem s ht))
            { options with token := some last.key } with
          ⟨taken, walk, hTaken, hSweeps⟩
        refine
          ⟨(s, ⟨_, true, some last.key⟩) :: taken, walk, ?_,
            Sweeps.cons hLeft rfl hSweeps⟩
        simp only [among, hStep, hTaken]
        rfl

end ListWalk

end StorageRouting

------------------------------------------------------------
-- Walks Alone
------------------------------------------------------------

namespace StorageRouting

namespace ListWalk

variable {σ : Type}
variable {slot : Slot σ MemoryStore} {s : σ} {bucket : String}

/- What comes after an entry is shorter than the whole. -/
theorem length_lt_of_eq_append
    {α : Type}
    {whole before rest : List α}
    {a : α}
    (h : whole = before ++ a :: rest) :
    rest.length < whole.length := by
  rw [h, List.length_append, List.length_cons]
  omega

/-
  If nothing changes, the walk ends, and its pages hold all that
  was to be listed.
-/
theorem drain?_memory
    (h : (slot.get s).Serves bucket)
    (now : σ → Moment)
    (options : ListOptions) :
    ∃ pages : List ListPage,
      drain? (MemoryStore.objectStore slot now) bucket
          (some options) s =
        some (pages.map .ok, s) ∧
      pages.flatMap (·.items) =
        options.passing ((slot.get s).entries bucket options) := by
  -- each page leaves less to be listed
  generalize hLength :
    (options.passing
      ((slot.get s).entries bucket options)).length = n
  induction n using Nat.strongRecOn generalizing options with
  | ind n ih =>
      rw [drain?]
      rcases step_memory h now options with
        hStep | ⟨before, last, hLeft, hStep⟩
      · refine ⟨[⟨_, false, none⟩], ?_, List.append_nil _⟩
        rw [hStep]
        dsimp only
        rw [drain?]
        rfl
      · rcases ih _ (hLength ▸ length_lt_of_eq_append hLeft)
            { options with token := some last.key } rfl with
          ⟨pages, hPages, hItems⟩
        refine
          ⟨⟨before ++ [last], true, some last.key⟩ :: pages, ?_,
            ?_⟩
        · rw [hStep]
          dsimp only
          rw [hPages]
          rfl
        · rw [List.flatMap_cons, hItems, hLeft]
          exact (List.append_cons before last _).symm

/- If nothing changes, a search finds what a walk would. -/
theorem find?_memory
    (h : (slot.get s).Serves bucket)
    (now : σ → Moment)
    (p : ObjectInfo → Bool)
    (options : ListOptions) :
    find? (MemoryStore.objectStore slot now) bucket p
        (some options) s =
      some
        (.ok
          ((options.passing
            ((slot.get s).entries bucket options)).find? p), s) := by
  generalize hLength :
    (options.passing
      ((slot.get s).entries bucket options)).length = n
  induction n using Nat.strongRecOn generalizing options with
  | ind n ih =>
      rw [find?]
      rcases step_memory h now options with
        hStep | ⟨before, last, hLeft, hStep⟩
      · rw [hStep]
        dsimp only
        cases List.find? p _ with
        | some info => rfl
        | none =>
            dsimp only
            rw [find?]
            rfl
      · have hLater :=
          ih _ (hLength ▸ length_lt_of_eq_append hLeft)
            { options with token := some last.key } rfl
        rw [hStep, hLeft.trans (List.append_cons before last _),
          List.find?_append]
        dsimp only
        cases List.find? p (before ++ [last]) with
        | some info => rfl
        | none => exact hLater

/- Pages without an error are gathered whole. -/
theorem gather_ok
    (pages : List ListPage) :
    StorageClient.gather (pages.map .ok) =
      .ok (pages.flatMap (·.items)) := by
  induction pages with
  | nil => rfl
  | cons page pages ih =>
      simp only [List.map_cons, StorageClient.gather, ih,
        List.flatMap_cons]

/- If nothing changes, a client gathers all that is listed. -/
theorem listAll_memory
    (h : (slot.get s).Serves bucket)
    {now : σ → Moment}
    {config : BackendConfig}
    {c : StorageClient}
    {r : StorageClient.Route σ}
    {asked : Option String}
    (hTarget :
      c.target r asked =
        .ok (MemoryStore.adapter slot now config, bucket))
    (options : ListOptions) :
    c.listAll r asked options s =
      (.ok
        (options.passing ((slot.get s).entries bucket options)),
        s) := by
  rcases drain?_memory h now options with ⟨pages, hPages, hItems⟩
  have hDrain :
      drain (MemoryStore.adapter slot now config).toObjectStore
          bucket (some options) s =
        (pages.map .ok, s) := by
    change (drain? (MemoryStore.objectStore slot now) _ _ _).getD _ =
      _
    rw [hPages]
    rfl
  rw [StorageClient.listAll, ClientCall.withTarget_of_ok hTarget,
    hDrain, ← hItems]
  exact congrArg (·, s) (gather_ok pages)

/-
  Listing page by page.  Whatever happens to a bucket between
  the pages of a walk, as long as it stays: the walk does not
  fail; its entries come in strictly ascending order of the
  bytes of their keys, so that none is repeated; each was there
  when its page was taken; and if the walk ends, each key that
  was listed all the time after the place where the walk began
  came exactly once.  If nothing changes, the walk ends, and
  all pages together, which are what a client gathers, are the
  whole listing, in order, however many keys a page may have.
-/
theorem pages_cover_bucket
    (slot : Slot σ MemoryStore)
    (now : σ → Moment)
    (config : BackendConfig)
    (bucket : String)
    (options : ListOptions) :
    let adapter := MemoryStore.adapter slot now config
    (∀ states : List σ,
      (∀ s ∈ states, (slot.get s).Serves bucket) →
      ∃ taken walk,
        among adapter.toObjectStore bucket states
            (some options) =
          (answers taken, walk) ∧
        Sweeps slot bucket options taken walk) ∧
    (∀ s, (slot.get s).Serves bucket →
      ∃ entries,
        InByteOrder entries ∧
        (∀ info,
          info ∈ entries ↔
            (slot.get s).Lists bucket options info ∧
            options.Passes info.key) ∧
        ∀ maxKeys,
          let options := { options with maxKeys }
          (∃ pages : List ListPage,
            drain? adapter.toObjectStore bucket (some options)
                s =
              some (pages.map .ok, s) ∧
            pages.flatMap (·.items) = entries) ∧
          ∀ (c : StorageClient) (r : StorageClient.Route σ) asked,
            c.target r asked = .ok (adapter, bucket) →
            c.listAll r asked options s = (.ok entries, s)) := by
  refine ⟨?_, ?_⟩
  · intro states hServes
    exact among_sweeps slot now bucket hServes options
  · intro s hServes
    refine
      ⟨options.passing ((slot.get s).entries bucket options),
        ?_, ?_, ?_⟩
    · exact
        inByteOrder_iff.mpr
          (ListOptions.passing_ascending
            (MemoryStore.entries_ascending _ _ _) options)
    · intro info
      rw [ListOptions.mem_passing_iff, MemoryStore.mem_entries_iff]
    · intro maxKeys
      refine
        ⟨drain?_memory hServes now { options with maxKeys }, ?_⟩
      intro c r asked hTarget
      exact
        listAll_memory hServes hTarget { options with maxKeys }

/- An object without content. -/
def sampleObject : StoredObject where
  data := Bytes.empty
  contentType := none
  modified := default
  etag := ""
  acl := .personal

/- An open store with one bucket, with objects of these keys. -/
def sampleStore (keys : List String) : MemoryStore :=
  (MemoryStore.empty "one").setBucket "own"
    ⟨Dictionary.ofList (keys.map (·, sampleObject)), .personal⟩

/-
  What is changed between the pages: the last key that was
  listed is removed, a key comes before the place of the walk,
  a directory gets another object, and a key comes at the end.
-/
def sampleStates : List MemoryStore :=
  [sampleStore ["a", "c/x", "d"], sampleStore ["c/y", "d"],
    sampleStore ["b", "c/y", "d", "e"],
    sampleStore ["b", "c/z", "d", "e"]]

/- One entry on each page. -/
def sampleOptions : ListOptions :=
  { ListOptions.all with maxKeys := some 1 }

/- A registry whose only backend is that of the sample. -/
def sampleRoute : StorageClient.Route MemoryStore where
  registry :=
    ((Registry.new "one" false).register "one"
      (MemoryStore.alone default
        { BackendConfig.blank with name := "one" })).2
  stack := []

/-
  A walk among the changes of the sample, and all that a client
  gathers of its first state.
-/
theorem sampleStates_covered :
    let store :=
      (MemoryStore.alone default
        { BackendConfig.blank with name := "one" }).toObjectStore
    (∀ s ∈ sampleStates, s.Serves "own") ∧
      (∃ taken,
        among store "own" sampleStates (some sampleOptions) =
          (answers taken, none) ∧
        Sweeps Slot.whole "own" sampleOptions taken none) ∧
      ((among store "own" sampleStates (some sampleOptions)).1.map
        (fun t => t.2.toOption.map
          (fun page => page.items.map (·.key)))) =
        [some ["a"], some ["c/"], some ["d"], some ["e"]] ∧
      ∃ entries,
        InByteOrder entries ∧
        StorageClient.standard.listAll sampleRoute (some "own")
            sampleOptions (sampleStore ["a", "c/x", "d"]) =
          (.ok entries, sampleStore ["a", "c/x", "d"]) := by
  have hServes : ∀ s ∈ sampleStates, s.Serves "own" := by decide
  have hCover :=
    pages_cover_bucket Slot.whole (fun _ => default)
      { BackendConfig.blank with name := "one" } "own"
      sampleOptions
  rcases hCover with ⟨hAmong, hAlone⟩
  refine ⟨hServes, ?_, by decide, ?_⟩
  · rcases hAmong sampleStates hServes with
      ⟨taken, walk, hTaken, hSweeps⟩
    have hEnded : walk = none := by
      rw [← (Prod.mk.inj hTaken).2]
    subst hEnded
    exact ⟨taken, hTaken, hSweeps⟩
  · rcases hAlone (sampleStore ["a", "c/x", "d"])
        (hServes _ List.mem_cons_self) with
      ⟨entries, hOrder, _, hAll⟩
    exact
      ⟨entries, hOrder,
        (hAll (some 1)).2 StorageClient.standard sampleRoute
          (some "own") rfl⟩

end ListWalk

end StorageRouting
