import Mathlib.Data.List.TFAE
import StorageRouting.Proofs.Backend.MemoryHistory

/-
  The ways in which a client can look at an object in memory,
  which all see the same: the lookup of its key, its content,
  its access list, the listings that show it, and what is found
  in the listing of the keys that start with its own.

  Key definitions include:
    * `ListOptions.everything`
    * `ListOptions.startingWith`
    * `ShowsAt`
    * `StorageClient.sights`
    * `StorageClient.Sees`
    * `StorageClient.SeesNoBucket`

  Main statements:
    * `MemoryStore.entries_showsAt`
    * `StorageClient.listAll_memory_at`
    * `StorageClient.stat_memory`
    * `StorageClient.mem_sights_iff`
    * `StorageClient.observers_agree`
-/

------------------------------------------------------------
-- Entries of a Key
------------------------------------------------------------

namespace StorageRouting

namespace MemoryStore

/-
  In a listing where a key is not grouped, its only entry is
  that of its object.
-/
theorem lists_at_iff
    {m : MemoryStore}
    {bucket key rest : String}
    {options : ListOptions}
    (hKey : options.keyStart.getD "" ++ rest = key)
    (hShown : options.recursive = true ∨ '/' ∉ rest.toList)
    {info : ObjectInfo} :
    m.Lists bucket options info ∧ info.key = key ↔
      ∃ o, m.objectAt bucket key = some o ∧ o.info key = info := by
  subst hKey
  constructor
  · rintro ⟨⟨b, hBucket, hLists⟩, hSame⟩
    rw [objectAt_of_get? hBucket]
    cases hLists with
    | object rest' o hFound _ =>
        have hSame : options.keyStart.getD "" ++ rest' =
            options.keyStart.getD "" ++ rest := hSame
        rw [hSame] at hFound ⊢
        exact ⟨o, hFound, rfl⟩
    | directory part more o _ hGrouped _ =>
        -- the key has no slash where the directory ends
        have hEnd := congrArg String.toList hSame
        simp [ObjectInfo.dir] at hEnd
        simp [hGrouped, ← hEnd] at hShown
  · rintro ⟨o, hObject, rfl⟩
    exact ⟨lists_of_objectAt hObject hShown, rfl⟩

end MemoryStore

/-
  Entries in order that show at a key what is known about an
  object, or nothing.
-/
structure ShowsAt
    (entries : List ObjectInfo)
    (key : String)
    (o? : Option StoredObject) : Prop where
  ordered : Ascending entries
  shown :
    ∀ info,
      info ∈ entries ∧ info.key = key ↔
        ∃ o, o? = some o ∧ o.info key = info

namespace ShowsAt

variable {entries : List ObjectInfo} {key : String}
variable {o? : Option StoredObject}

/- An entry of the key is there if the object is. -/
theorem exists_iff
    (h : ShowsAt entries key o?)
    (p : ObjectInfo → Prop)
    (hAll : ∀ o : StoredObject, p (o.info key)) :
    (∃ info ∈ entries, info.key = key ∧ p info) ↔
      o?.isSome = true := by
  rw [Option.isSome_iff_exists]
  constructor
  · rintro ⟨info, hMem, hKey, _⟩
    rcases (h.shown info).mp ⟨hMem, hKey⟩ with ⟨o, hObject, _⟩
    exact ⟨o, hObject⟩
  · rintro ⟨o, hObject⟩
    rcases (h.shown _).mpr ⟨o, hObject, rfl⟩ with ⟨hMem, hKey⟩
    exact ⟨_, hMem, hKey, hAll o⟩

/- What is known about the object is there once. -/
theorem mem_once
    {o : StoredObject}
    (h : ShowsAt entries key (some o)) :
    o.info key ∈ entries ∧
      (entries.map (·.key)).count key = 1 := by
  have hMem := ((h.shown _).mpr ⟨o, rfl, rfl⟩).1
  exact ⟨hMem, h.ordered.count_eq_one hMem⟩

/- A search for the key finds what is known about the object. -/
theorem find?_eq
    (h : ShowsAt entries key o?) :
    entries.find? (fun info => info.key == key) =
      o?.map (fun o => o.info key) := by
  cases hFound : entries.find? (fun info => info.key == key) with
  | some info =>
      have hMem := List.mem_of_find?_eq_some hFound
      have hSame : info.key = key := by
        simpa using List.find?_some hFound
      rcases (h.shown info).mp ⟨hMem, hSame⟩ with ⟨o, rfl, rfl⟩
      rfl
  | none =>
      cases o? with
      | none => rfl
      | some o =>
          have hNot :=
            List.find?_eq_none.mp hFound _ h.mem_once.1
          exact absurd (beq_self_eq_true key) hNot

end ShowsAt

/-
  In a listing where a key is not grouped, the key comes once
  with what is known about its object, or not at all.
-/
theorem MemoryStore.entries_showsAt
    (m : MemoryStore)
    (bucket : String)
    {key rest : String}
    {options : ListOptions}
    (hKey : options.keyStart.getD "" ++ rest = key)
    (hShown : options.recursive = true ∨ '/' ∉ rest.toList) :
    ShowsAt (m.entries bucket options) key
      (m.objectAt bucket key) where
  ordered := m.entries_ascending bucket options
  shown := by
    intro info
    rw [mem_entries_iff]
    exact lists_at_iff hKey hShown

end StorageRouting

------------------------------------------------------------
-- Calls of the Usual Client
------------------------------------------------------------

namespace StorageRouting

namespace ListOptions

/- All objects of a bucket. -/
def everything (maxKeys : Option Int) : ListOptions :=
  { all with maxKeys, recursive := true }

/- The keys that start as asked, grouped or not. -/
def startingWith
    (start : String)
    (maxKeys : Option Int)
    (recursive : Bool) : ListOptions :=
  { all with keyStart := some start, maxKeys, recursive }

end ListOptions

namespace StorageClient

variable {σ : Type}
variable {slot : Slot σ MemoryStore} {now : σ → Moment}
variable {config : BackendConfig}
variable {r : Route σ} {bucket key : String} {s : σ}

/- The usual mappers keep a bucket that has a name. -/
theorem standard_target
    {a : Adapter σ}
    (hRoute : r.adapter = .ok a)
    (hName : bucket ≠ "") :
    standard.target r (some bucket) = .ok (a, bucket) := by
  simp [target, hRoute, standard, BucketMapper.usual, hName]

variable
  (hTarget :
    standard.target r (some bucket) =
      .ok (MemoryStore.adapter slot now config, bucket))

include hTarget

/- The object of a key is looked up in the store. -/
theorem hasObject_memory :
    standard.hasObject r (some bucket) key s =
      ((slot.get s).hasObject bucket key, s) := by
  rw [hasObject, ClientCall.withTarget_of_ok hTarget]
  rfl

theorem hasBucket_memory :
    standard.hasBucket r (some bucket) s =
      ((slot.get s).hasBucket bucket, s) := by
  rw [hasBucket, ClientCall.withTarget_of_ok hTarget]
  rfl

theorem openObject_memory :
    standard.openObject r (some bucket) key s =
      ((slot.get s).get bucket key, s) := by
  rw [openObject, ClientCall.withTarget_of_ok hTarget]
  rfl

theorem getAcl_memory :
    standard.getAcl r (some bucket) (some key) s =
      ((slot.get s).getAcl bucket (some key), s) := by
  rw [getAcl, ClientCall.withTarget_of_ok hTarget]
  rfl

theorem setAcl_memory
    (acl : CannedAcl) :
    standard.setAcl r (some bucket) (some key) acl s =
      slot.writing
        (fun m => m.setAcl bucket (some key) acl) s := by
  rw [setAcl, ClientCall.withTarget_of_ok hTarget]
  rfl

/-
  A listing from its start where a key is not grouped shows its
  object.
-/
theorem listAll_memory_at
    (hServes : (slot.get s).Serves bucket)
    {options : ListOptions}
    (hFirst : options.token = none)
    {rest : String}
    (hKey : options.keyStart.getD "" ++ rest = key)
    (hShown : options.recursive = true ∨ '/' ∉ rest.toList) :
    ∃ entries,
      standard.listAll r (some bucket) options s =
        (.ok entries, s) ∧
      ShowsAt entries key
        ((slot.get s).objectAt bucket key) := by
  refine
    ⟨(slot.get s).entries bucket options, ?_,
      (slot.get s).entries_showsAt bucket hKey hShown⟩
  rw [ListWalk.listAll_memory hServes hTarget,
    ListOptions.passing, hFirst]

/- The listing of all objects shows the object of a key. -/
theorem listAll_everything
    (hServes : (slot.get s).Serves bucket)
    (key : String)
    (maxKeys : Option Int) :
    ∃ entries,
      standard.listAll r (some bucket) (.everything maxKeys) s =
        (.ok entries, s) ∧
      ShowsAt entries key
        ((slot.get s).objectAt bucket key) :=
  listAll_memory_at hTarget hServes rfl String.empty_append
    (.inl rfl)

/- So does that of the keys that start with the key. -/
theorem listAll_startingWith
    (hServes : (slot.get s).Serves bucket)
    (key : String)
    (maxKeys : Option Int)
    (recursive : Bool) :
    ∃ entries,
      standard.listAll r (some bucket)
          (.startingWith key maxKeys recursive) s =
        (.ok entries, s) ∧
      ShowsAt entries key
        ((slot.get s).objectAt bucket key) :=
  listAll_memory_at hTarget hServes rfl String.append_empty
    (.inr (by simp))

/- What is known about an object is found if it is there. -/
theorem stat_memory
    (hServes : (slot.get s).Serves bucket) :
    standard.stat r (some bucket) key s =
      (match (slot.get s).objectAt bucket key with
        | some o => .ok (o.info key)
        | none =>
            .error
              (.notFound
                ("Object not found: " ++ bucket ++ "/" ++ key)),
        s) := by
  have hKey : (exactKey key).keyStart.getD "" ++ "" = key :=
    String.append_empty
  have hShows :=
    (slot.get s).entries_showsAt bucket hKey (.inl rfl)
  have hSearch :
      ListWalk.find
          (MemoryStore.adapter slot now config).toObjectStore
          bucket (fun info => info.key == key)
          (some (exactKey key)) s =
        (.ok
          (((slot.get s).objectAt bucket key).map
            (fun o => o.info key)), s) := by
    rw [← hShows.find?_eq]
    change (ListWalk.find? (MemoryStore.objectStore slot now) _ _ _
      _).getD _ = _
    rw [ListWalk.find?_memory hServes now]
    rfl
  have hOn :
      standard.keyOn (MemoryStore.adapter slot now config) key =
        key := rfl
  rw [stat, ClientCall.withTarget_of_ok hTarget]
  simp only [hOn, hSearch]
  cases (slot.get s).objectAt bucket key <;> rfl

end StorageClient

end StorageRouting

------------------------------------------------------------
-- Buckets That Are Missing
------------------------------------------------------------

namespace StorageRouting

namespace MemoryStore

variable {m : MemoryStore} {bucket key : String}

/- In a bucket that is not there no object is. -/
theorem objectAt_of_aclAt
    (h : m.aclAt bucket = none) :
    m.objectAt bucket key = none := by
  rw [objectAt, Option.map_eq_none_iff.mp h, Option.bind_none]

/- Nothing can be asked of a bucket that is not there. -/
theorem missing_bucket
    (hOpen : m.closed = false)
    (h : m.aclAt bucket = none)
    (key : String) :
    m.get bucket key = .error (missingBucket bucket) ∧
      m.getAcl bucket (some key) =
        .error (missingBucket bucket) ∧
      (∀ acl,
        m.setAcl bucket (some key) acl =
          .error (missingBucket bucket)) ∧
      ∀ options,
        m.list bucket options = .error (missingBucket bucket) := by
  have hBucket := bucket_of_aclAt h
  have hObject :
      m.object bucket key = .error (missingBucket bucket) := by
    rw [object, hBucket]
    rfl
  refine ⟨?_, ?_, fun acl => ?_, fun options => ?_⟩
  · rw [get, ensureOpen_of_open hOpen, hObject]
    rfl
  · rw [getAcl, ensureOpen_of_open hOpen, hBucket]
    rfl
  · rw [setAcl, ensureOpen_of_open hOpen, hBucket]
    rfl
  · rw [list, ensureOpen_of_open hOpen, hBucket]
    rfl

end MemoryStore

namespace ListWalk

variable {σ : Type}
variable {store : ObjectStore σ} {bucket : String}
variable {options : ListOptions} {s : σ} {e : Error}

/- A walk whose first page fails has failed. -/
theorem step_of_error
    (h : store.list bucket options s = (.error e, s)) :
    step store bucket (some options) s =
      (some (.error e), none, s) := by
  rw [step, h]

theorem drain_of_error
    (h : store.list bucket options s = (.error e, s)) :
    drain store bucket (some options) s = ([.error e], s) := by
  rw [drain, drain?, step_of_error h]
  dsimp only
  rw [drain?]
  rfl

theorem find_of_error
    (h : store.list bucket options s = (.error e, s))
    (p : ObjectInfo → Bool) :
    find store bucket p (some options) s = (.error e, s) := by
  rw [find, find?, step_of_error h]
  rfl

end ListWalk

end StorageRouting

------------------------------------------------------------
-- Agreement
------------------------------------------------------------

namespace StorageRouting

open StoreTurn

namespace StorageClient

variable {σ : Type}

/-
  The ways in which a client can see that there is an object at
  a key: it is said to be there, its content and its access list
  can be read, an access list can be set, it is in a listing of
  all objects and in one of the keys that start with its own,
  and something is known about it.
-/
def sights
    (c : StorageClient)
    (r : Route σ)
    (bucket key : String)
    (acl : CannedAcl)
    (maxKeys : Option Int)
    (recursive : Bool)
    (s : σ) : List Prop :=
  [(c.hasObject r (some bucket) key s).1 = .ok true,
    ∃ body, (c.openObject r (some bucket) key s).1 = .ok body,
    ∃ policy,
      (c.getAcl r (some bucket) (some key) s).1 = .ok policy,
    ∃ u, (c.setAcl r (some bucket) (some key) acl s).1 = .ok u,
    ∃ entries,
      (c.listAll r (some bucket) (.everything maxKeys) s).1 =
        .ok entries ∧
      ∃ info ∈ entries, info.key = key,
    ∃ entries,
      (c.listAll r (some bucket)
          (.startingWith key maxKeys recursive) s).1 =
        .ok entries ∧
      ∃ info ∈ entries, info.key = key ∧ info.isDir = false,
    ∃ info, (c.stat r (some bucket) key s).1 = .ok info]

/-
  What a client sees of an object that was deposited: what was
  answered to the deposit is known about it and listed, once in
  each listing, and tells the size of the content.
-/
structure Sees
    (c : StorageClient)
    (r : Route σ)
    (bucket key : String)
    (s : σ)
    (d : Deposit) : Prop where
  known : c.stat r (some bucket) key s = (.ok d.info, s)
  content :
    ∃ body data,
      c.openObject r (some bucket) key s = (.ok body, s) ∧
      body.collect = .ok data ∧
      d.info.size = some data.size
  everywhere :
    ∀ maxKeys,
      ∃ entries,
        c.listAll r (some bucket) (.everything maxKeys) s =
          (.ok entries, s) ∧
        d.info ∈ entries ∧
        (entries.map (·.key)).count key = 1
  nearby :
    ∀ maxKeys recursive,
      ∃ entries,
        c.listAll r (some bucket)
            (.startingWith key maxKeys recursive) s =
          (.ok entries, s) ∧
        d.info ∈ entries ∧
        (entries.map (·.key)).count key = 1

/-
  What a client sees in a bucket that is not there: no object is
  said to be in it, and all else fails, as it is not found.
-/
structure SeesNoBucket
    (c : StorageClient)
    (r : Route σ)
    (bucket key : String)
    (s : σ) : Prop where
  lookup : c.hasObject r (some bucket) key s = (.ok false, s)
  content :
    c.openObject r (some bucket) key s =
      (.error (MemoryStore.missingBucket bucket), s)
  readAcl :
    c.getAcl r (some bucket) (some key) s =
      (.error (MemoryStore.missingBucket bucket), s)
  writeAcl :
    ∀ acl,
      c.setAcl r (some bucket) (some key) acl s =
        (.error (MemoryStore.missingBucket bucket), s)
  listing :
    ∀ options,
      c.listAll r (some bucket) options s =
        (.error (MemoryStore.missingBucket bucket), s)
  known :
    c.stat r (some bucket) key s =
      (.error (MemoryStore.missingBucket bucket), s)

variable {slot : Slot σ MemoryStore} {now : σ → Moment}
variable {config : BackendConfig}
variable {r : Route σ} {bucket key : String} {s : σ}

/- Every sight of a key tells whether its object is there. -/
theorem mem_sights_iff
    (hTarget :
      standard.target r (some bucket) =
        .ok (MemoryStore.adapter slot now config, bucket))
    (hServes : (slot.get s).Serves bucket)
    {acl : CannedAcl}
    {maxKeys : Option Int}
    {recursive : Bool}
    {p : Prop}
    (h :
      p ∈ sights standard r bucket key acl maxKeys recursive s) :
    p ↔ ((slot.get s).objectAt bucket key).isSome = true := by
  have hOpen := hServes.1
  simp only [sights, List.mem_cons, List.not_mem_nil, or_false]
    at h
  rcases h with rfl | rfl | rfl | rfl | rfl | rfl | rfl
  · rw [hasObject_memory hTarget, MemoryStore.hasObject_eq hOpen]
    simp
  · simp [openObject_memory hTarget,
      MemoryStore.get_eq_ok_iff hOpen,
      StoreCall.exists_result_iff, Option.isSome_iff_exists]
  · simp [getAcl_memory hTarget,
      MemoryStore.getAcl_some_eq_ok_iff hOpen,
      StoreCall.exists_result_iff, Option.isSome_iff_exists]
  · rw [setAcl_memory hTarget]
    exact
      StoreCall.writing_succeeds_iff.trans
        (MemoryStore.setAcl_some_succeeds_iff hOpen)
  · rcases listAll_everything hTarget hServes key maxKeys with
      ⟨entries, hAll, hShows⟩
    simpa [hAll] using
      hShows.exists_iff (fun _ => True) (fun _ => trivial)
  · rcases listAll_startingWith hTarget hServes key maxKeys
        recursive with
      ⟨entries, hAll, hShows⟩
    simpa [hAll] using
      hShows.exists_iff (fun info => info.isDir = false)
        (fun _ => rfl)
  · rw [stat_memory hTarget hServes]
    cases (slot.get s).objectAt bucket key <;> simp

/- What is kept at a key is what a client sees there. -/
theorem sees_of_kept?
    (hTarget :
      standard.target r (some bucket) =
        .ok (MemoryStore.adapter slot now config, bucket))
    (hServes : (slot.get s).Serves bucket)
    {past : List StoreTurn}
    (hFollows : (slot.get s).Follows config past)
    {d : Deposit}
    (hKept : kept? bucket key past = some d) :
    Sees standard r bucket key s d := by
  have hObject := hFollows.objectAt_of_kept? hKept
  have hInfo := (hFollows.stored bucket key d hKept).2
  refine ⟨?_, ?_, ?_, ?_⟩
  · rw [stat_memory hTarget hServes, hObject, hInfo]
  · refine
      ⟨Body.ofBytes d.body.content, d.body.content, ?_, rfl, ?_⟩
    · rw [openObject_memory hTarget,
        (MemoryStore.get_eq_ok_iff hServes.1).mpr
          ⟨_, hObject, rfl⟩]
      rfl
    · rw [hInfo .personal]
      rfl
  · intro maxKeys
    rcases listAll_everything hTarget hServes key maxKeys with
      ⟨entries, hAll, hShows⟩
    rw [hObject] at hShows
    exact ⟨entries, hAll, hInfo _ ▸ hShows.mem_once⟩
  · intro maxKeys recursive
    rcases listAll_startingWith hTarget hServes key maxKeys
        recursive with
      ⟨entries, hAll, hShows⟩
    rw [hObject] at hShows
    exact ⟨entries, hAll, hInfo _ ▸ hShows.mem_once⟩

/- Of a bucket that is not there, nothing is seen. -/
theorem sees_no_bucket
    (hTarget :
      standard.target r (some bucket) =
        .ok (MemoryStore.adapter slot now config, bucket))
    (hOpen : (slot.get s).closed = false)
    (h : (slot.get s).aclAt bucket = none) :
    SeesNoBucket standard r bucket key s := by
  rcases MemoryStore.missing_bucket hOpen h key with
    ⟨hGet, hGetAcl, hSetAcl, hList⟩
  have hPage :
      ∀ options,
        (MemoryStore.adapter slot now config).list bucket options
            s =
          (.error (MemoryStore.missingBucket bucket), s) :=
    fun options => congrArg (·, s) (hList options)
  refine ⟨?_, ?_, ?_, fun acl => ?_, fun options => ?_, ?_⟩
  · rw [hasObject_memory hTarget, MemoryStore.hasObject_eq hOpen,
      MemoryStore.objectAt_of_aclAt h]
    rfl
  · rw [openObject_memory hTarget, hGet]
  · rw [getAcl_memory hTarget, hGetAcl]
  · rw [setAcl_memory hTarget]
    simp only [Slot.writing, hSetAcl]
  · rw [listAll, ClientCall.withTarget_of_ok hTarget]
    simp only [ListWalk.drain_of_error (hPage options)]
    rfl
  · rw [stat, ClientCall.withTarget_of_ok hTarget]
    simp only [ListWalk.find_of_error (hPage _)]

/-
  All observers of a store in memory agree.  In every state that
  an open store reaches, for every bucket that is there and has
  a name, and every key: the sights that a client has of an
  object there tell the same; and if they tell that there is
  one, it is seen as it was deposited.  In a bucket that is not
  there, no object is seen.
-/
theorem observers_agree
    (config : BackendConfig)
    (hComplete : config.preCheck = .ok ()) :
    ∃ first,
      MemoryStore.ofConfig config = .ok first ∧
      ∀ calls,
        let (past, last) := StoreTurn.run config calls first
        StoreTurn.closed past = false →
        ∀ {σ : Type} (slot : Slot σ MemoryStore)
          (now : σ → Moment) (s : σ) (r : Route σ)
          (bucket key : String),
          slot.get s = last →
          r.adapter = .ok (MemoryStore.adapter slot now config) →
          bucket ≠ "" →
          ((standard.hasBucket r (some bucket) s).1 = .ok true →
            (∀ acl maxKeys recursive,
              (sights standard r bucket key acl maxKeys recursive
                s).TFAE) ∧
            ((standard.hasObject r (some bucket) key s).1 =
                .ok true →
              ∃ d,
                kept? bucket key past = some d ∧
                Sees standard r bucket key s d)) ∧
          ((standard.hasBucket r (some bucket) s).1 = .ok false →
            SeesNoBucket standard r bucket key s) := by
  rcases MemoryStore.Follows.exists_start hComplete with
    ⟨first, hFirst, hStart⟩
  refine ⟨first, hFirst, ?_⟩
  intro calls hStays σ slot now s r bucket key hState hRoute hName
  have hFollows := hStart.run calls
  dsimp only at hFollows
  rw [List.nil_append, ← hState] at hFollows
  have hOpen : (slot.get s).closed = false :=
    hFollows.closed.trans hStays
  have hTarget := standard_target hRoute hName
  rw [hasBucket_memory hTarget, MemoryStore.hasBucket_eq hOpen]
  refine ⟨fun hBucket => ?_, fun hBucket => ?_⟩
  · have hServes : (slot.get s).Serves bucket :=
      ⟨hOpen, by simpa [MemoryStore.aclAt_isSome] using hBucket⟩
    refine ⟨fun acl maxKeys recursive => ?_, ?_⟩
    · exact
        List.tfae_of_forall
          (((slot.get s).objectAt bucket key).isSome = true) _
          (fun p hp => mem_sights_iff hTarget hServes hp)
    · rw [hasObject_memory hTarget, MemoryStore.hasObject_eq hOpen,
        hFollows.holds_eq]
      intro hThere
      rcases Option.isSome_iff_exists.mp (Except.ok.inj hThere)
        with ⟨d, hKept⟩
      exact ⟨d, hKept, sees_of_kept? hTarget hServes hFollows hKept⟩
  · exact sees_no_bucket hTarget hOpen (by simpa using hBucket)

/- A registry whose only backend is that of the sample. -/
def sampleRoute : Route MemoryStore where
  registry :=
    ((Registry.new "one" false).register "one"
      (MemoryStore.alone default MemoryStore.sampleConfig)).2
  stack := []

/-
  In the state that the calls of the sample lead to, an object
  is seen, and nothing of a bucket that was never created.
-/
theorem sampleCalls_observed :
    MemoryStore.sampleConfig.preCheck = .ok () ∧
    ∃ first,
      MemoryStore.ofConfig MemoryStore.sampleConfig = .ok first ∧
      let (past, last) :=
        StoreTurn.run MemoryStore.sampleConfig
          MemoryStore.sampleCalls first
      StoreTurn.closed past = false ∧
      (standard.hasBucket sampleRoute (some "own") last).1 =
        .ok true ∧
      (sights standard sampleRoute "own" "a" .publicRead none
        false last).TFAE ∧
      (∃ d,
        kept? "own" "a" past = some d ∧
        Sees standard sampleRoute "own" "a" last d) ∧
      SeesNoBucket standard sampleRoute "lost" "a" last := by
  have hComplete : MemoryStore.sampleConfig.preCheck = .ok () := by
    decide
  rcases observers_agree MemoryStore.sampleConfig hComplete with
    ⟨first, hFirst, hAgree⟩
  refine ⟨hComplete, first, hFirst, ?_⟩
  have hLast := hAgree MemoryStore.sampleCalls
  cases hFirst
  dsimp only at hLast ⊢
  have hOwn :=
    (hLast (by decide) Slot.whole (fun _ => default) _ sampleRoute
      "own" "a" rfl rfl (by decide)).1 (by decide)
  have hLost :=
    (hLast (by decide) Slot.whole (fun _ => default) _ sampleRoute
      "lost" "a" rfl rfl (by decide)).2 (by decide)
  exact
    ⟨by decide, by decide, hOwn.1 .publicRead none false,
      hOwn.2 (by decide), hLost⟩

end StorageClient

end StorageRouting
