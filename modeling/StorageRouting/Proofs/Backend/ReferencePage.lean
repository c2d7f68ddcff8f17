import Mathlib.Data.List.Sort
import StorageRouting.Proofs.Backend.PageWalk

/-
  One page of a bucket in memory against what a page has to be:
  which entries there are, where it begins, how many it holds,
  and how it goes on.

  Key definitions include:
    * `MemoryBucket.IsListing`
    * `ListOptions.Limits`
    * `ListOptions.beyond`
    * `ListPage.Shows`
    * `MemoryBucket.HasPage`

  Main statements:
    * `Ascending.ext`
    * `MemoryStore.shows_cutPage`
    * `ListPage.Shows.unique`
    * `MemoryStore.list_answers_reference_page`
-/

------------------------------------------------------------
-- Whole Listings
------------------------------------------------------------

namespace StorageRouting

/- In order, entries are known by which they are. -/
theorem Ascending.ext
    {xs ys : List ObjectInfo}
    (hx : Ascending xs)
    (hy : Ascending ys)
    (h : ∀ info, info ∈ xs ↔ info ∈ ys) : xs = ys := by
  have hIrrefl :
      Std.Irrefl (fun x y : ObjectInfo => x.key < y.key) := by
    constructor
    intro x
    exact String.lt_irrefl x.key
  have hAntisymm :
      Std.Antisymm (fun x y : ObjectInfo => x.key < y.key) := by
    constructor
    intro x y hLess hGreater
    exact absurd hGreater (String.lt_asymm hLess)
  exact List.Pairwise.eq_of_mem_iff hx hy h

/- In order, no entry occurs twice. -/
theorem Ascending.nodup
    {entries : List ObjectInfo}
    (h : Ascending entries) : entries.Nodup := by
  refine List.Pairwise.imp ?_ h
  intro x y hLess hSame
  rw [hSame] at hLess
  exact String.lt_irrefl y.key hLess

namespace MemoryBucket

/-
  The whole listing of the keys with a common start: all its
  entries, in ascending order of the bytes of their keys, so
  that no key occurs twice.
-/
structure IsListing
    (b : MemoryBucket)
    (start : String)
    (recursive : Bool)
    (entries : List ObjectInfo) : Prop where
  ordered : InByteOrder entries
  complete : ∀ info, info ∈ entries ↔ b.Lists start recursive info

theorem isListing_listing
    (b : MemoryBucket)
    (start : String)
    (recursive : Bool) :
    b.IsListing start recursive
      (MemoryStore.listing b start recursive) where
  ordered :=
    inByteOrder_iff.mpr
      (MemoryStore.listing_ascending b start recursive)
  complete := fun _ => MemoryStore.mem_listing_iff

/- There is only one whole listing. -/
theorem IsListing.unique
    {b : MemoryBucket}
    {start : String}
    {recursive : Bool}
    {xs ys : List ObjectInfo}
    (hx : b.IsListing start recursive xs)
    (hy : b.IsListing start recursive ys) : xs = ys := by
  apply Ascending.ext (inByteOrder_iff.mp hx.ordered)
    (inByteOrder_iff.mp hy.ordered)
  intro info
  rw [hx.complete, hy.complete]

end MemoryBucket

end StorageRouting

------------------------------------------------------------
-- Pages of a Listing
------------------------------------------------------------

namespace StorageRouting

namespace ListOptions

/-
  How many entries a page holds at most: as many as are asked
  for, if these are any, and else a thousand.
-/
inductive Limits (options : ListOptions) : Nat → Prop where
| asked
    {m : Nat}
    (hAsked : options.maxKeys = some (m : Int))
    (hSome : 0 < m) : Limits options m
| usual
    (hNone : ∀ m : Nat, 0 < m → options.maxKeys ≠ some (m : Int)) :
    Limits options 1000

theorem limits_pageSize (options : ListOptions) :
    options.Limits (MemoryStore.pageSize options.maxKeys) := by
  unfold MemoryStore.pageSize MemoryStore.defaultPage
  cases hAsked : options.maxKeys with
  | none =>
      apply Limits.usual
      intro m _
      rw [hAsked]
      exact Option.some_ne_none _ |>.symm
  | some n =>
      dsimp only
      split
      case isTrue hPos =>
        have hCast : ((n.toNat : Nat) : Int) = n :=
          Int.toNat_of_nonneg (by omega)
        apply Limits.asked
        · rw [hAsked, hCast]
        · omega
      case isFalse hNot =>
        apply Limits.usual
        intro m hSome hSame
        rw [hAsked, Option.some.injEq] at hSame
        omega

/- There is only one such number. -/
theorem Limits.unique
    {options : ListOptions}
    {m n : Nat}
    (hm : options.Limits m)
    (hn : options.Limits n) : m = n := by
  cases hm with
  | asked hAsked hSome =>
      cases hn with
      | asked hAsked' _ =>
          rw [hAsked, Option.some.injEq] at hAsked'
          omega
      | usual hNone => exact absurd hAsked (hNone m hSome)
  | usual hNone =>
      cases hn with
      | asked hAsked hSome => exact absurd hAsked (hNone n hSome)
      | usual _ => rfl

/-
  The entries beyond the place where a listing goes on, which
  may be any text, in the order of bytes.
-/
def beyond
    (options : ListOptions)
    (entries : List ObjectInfo) : List ObjectInfo :=
  entries.filter
    (fun info =>
      options.token.all
        (fun token => Text.utf8 token < Text.utf8 info.key))

theorem beyond_eq_passing
    (options : ListOptions)
    (entries : List ObjectInfo) :
    options.beyond entries = options.passing entries := by
  unfold beyond passing
  cases options.token with
  | none => exact List.filter_eq_self.mpr (fun _ _ => rfl)
  | some token =>
      apply List.filter_congr
      intro info _
      rw [Option.all_some]
      exact decide_eq_decide.mpr Text.lt_iff_utf8_lt.symm

end ListOptions

/-
  A page shows the first of the entries that are left, up to a
  number.  It is truncated if these are not all, and then its
  token is the key of the last one that it shows.
-/
structure ListPage.Shows
    (page : ListPage)
    (m : Nat)
    (left : List ObjectInfo) : Prop where
  items : page.items = left.take m
  truncated : page.truncated = true ↔ m < left.length
  goesOn :
    page.truncated = true →
      ∃ before last,
        page.items = before ++ [last] ∧ page.token = some last.key
  ends : page.truncated = false → page.token = none

/- There is only one such page. -/
theorem ListPage.Shows.unique
    {page other : ListPage}
    {m : Nat}
    {left : List ObjectInfo}
    (h : page.Shows m left)
    (h' : other.Shows m left) : page = other := by
  have hItems : page.items = other.items := by
    rw [h.items, h'.items]
  have hTruncated : page.truncated = other.truncated := by
    rw [Bool.eq_iff_iff, h.truncated, h'.truncated]
  have hToken : page.token = other.token := by
    cases hMore : page.truncated with
    | false =>
        rw [h.ends hMore, h'.ends (hTruncated ▸ hMore)]
    | true =>
        rcases h.goesOn hMore with ⟨before, last, hLast, hKey⟩
        rcases h'.goesOn (hTruncated ▸ hMore) with
          ⟨before', last', hLast', hKey'⟩
        rw [hItems, hLast'] at hLast
        have hSame := List.append_inj_right' hLast rfl
        rw [List.singleton_inj] at hSame
        rw [hKey, hKey', hSame]
  cases page
  cases other
  simp only at hItems hTruncated hToken
  rw [hItems, hTruncated, hToken]

namespace MemoryStore

/- What is cut out of the entries is such a page. -/
theorem shows_cutPage
    (options : ListOptions)
    (entries : List ObjectInfo) :
    (cutPage options entries).Shows (pageSize options.maxKeys)
      (options.beyond entries) := by
  have hSize := pageSize_pos options.maxKeys
  have hItems :
      (cutPage options entries).items =
        (options.passing entries).take (pageSize options.maxKeys) :=
    rfl
  have hTruncated :
      (cutPage options entries).truncated =
        decide
          (pageSize options.maxKeys <
            (options.passing entries).length) :=
    rfl
  have hToken :
      (cutPage options entries).token =
        if pageSize options.maxKeys <
            (options.passing entries).length then
          (cutPage options entries).items.getLast?.map (·.key)
        else none :=
    rfl
  rw [ListOptions.beyond_eq_passing]
  refine ⟨hItems, ?_, ?_, ?_⟩
  · rw [hTruncated, decide_eq_true_eq]
  · intro hMore
    rw [hTruncated, decide_eq_true_eq] at hMore
    have hSome : (cutPage options entries).items ≠ [] := by
      rw [hItems, ← List.length_pos_iff, List.length_take]
      omega
    rw [hToken, if_pos hMore]
    generalize (cutPage options entries).items = items at hSome
    refine
      ⟨items.dropLast, items.getLast hSome,
        (List.dropLast_concat_getLast hSome).symm, ?_⟩
    rw [List.getLast?_eq_some_getLast hSome, Option.map_some]
  · intro hAll
    rw [hTruncated, decide_eq_false_iff_not] at hAll
    rw [hToken, if_neg hAll]

end MemoryStore

namespace MemoryBucket

/- The page that options ask for, of the bucket as it stands. -/
def HasPage
    (b : MemoryBucket)
    (options : ListOptions)
    (page : ListPage) : Prop :=
  ∃ entries m,
    b.IsListing (options.keyStart.getD "") options.recursive
      entries ∧
    options.Limits m ∧
    page.Shows m (options.beyond entries)

end MemoryBucket

end StorageRouting

------------------------------------------------------------
-- Answers to Listing Requests
------------------------------------------------------------

namespace StorageRouting

namespace MemoryStore

variable {σ : Type}
variable {slot : Slot σ MemoryStore} {s : σ}
variable {bucket : String} {b : MemoryBucket}

/-
  A listing request for a bucket of an open store is answered,
  and the answer is the one page that the options ask for.
-/
theorem list_answers_reference_page
    (hOpen : (slot.get s).closed = false)
    (hBucket : (slot.get s).buckets.get? bucket = some b)
    (now : σ → Moment)
    (config : BackendConfig)
    (options : ListOptions) :
    ∃ page,
      (adapter slot now config).list bucket options s =
        (.ok page, s) ∧
      ∀ other, b.HasPage options other ↔ other = page := by
  have hPage :
      (slot.get s).list bucket options =
        .ok
          (cutPage options
            (listing b (options.keyStart.getD "")
              options.recursive)) := by
    apply (list_eq_ok_iff hOpen).mpr
    exact ⟨b, hBucket, rfl⟩
  have hShows :
      b.HasPage options
        (cutPage options
          (listing b (options.keyStart.getD "")
            options.recursive)) := by
    refine
      ⟨_, _, b.isListing_listing _ _, options.limits_pageSize, ?_⟩
    exact shows_cutPage options _
  refine ⟨_, congrArg (·, s) hPage, ?_⟩
  intro other
  constructor
  · rintro ⟨entries, m, hListing, hLimit, hOther⟩
    rcases hShows with ⟨entries', m', hListing', hLimit', hPage'⟩
    rw [hListing.unique hListing', hLimit.unique hLimit'] at hOther
    exact hOther.unique hPage'
  · rintro rfl
    exact hShows

/- One grouped entry behind a key, of those that start with it. -/
def sampleRequest : ListOptions where
  keyStart := some "a"
  maxKeys := some 1
  token := some "a"
  recursive := false

/-
  The page behind an object whose key is the start: the
  directory that two keys are grouped under, one of them with an
  empty segment; another object is left for the next page.
-/
theorem sampleRequest_answered :
    let m := ListWalk.sampleStore ["a", "a//", "a/x", "ab", "b"]
    ∃ b,
      m.closed = false ∧
      m.buckets.get? "own" = some b ∧
      b.HasPage sampleRequest
        ⟨[ObjectInfo.dir "a/"], true, some "a/"⟩ := by
  intro m
  have hThere : (m.buckets.get? "own").isSome = true := by decide
  rcases Option.isSome_iff_exists.mp hThere with ⟨b, hBucket⟩
  have hOpen : (Slot.whole.get m).closed = false := by decide
  rcases list_answers_reference_page hOpen hBucket
      (fun _ => default) BackendConfig.blank sampleRequest with
    ⟨page, hPage, hOnly⟩
  have hSeen :
      (m.list "own" sampleRequest).toOption =
        some ⟨[ObjectInfo.dir "a/"], true, some "a/"⟩ := by
    decide
  have hAnswer : m.list "own" sampleRequest = .ok page :=
    congrArg Prod.fst hPage
  rw [hAnswer] at hSeen
  refine ⟨b, hOpen, hBucket, (hOnly _).mpr ?_⟩
  exact (Option.some.inj hSeen).symm

end MemoryStore

end StorageRouting
