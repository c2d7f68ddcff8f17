import StorageRouting.Proofs.Backend.PageWalk
import StorageRouting.Proofs.Backend.StoreCall

/-
  What a store in memory shows, told from the calls that were
  made on it and what they were answered.

  Key definitions include:
    * `StoreTurn`
    * `StoreTurn.lastOf`
    * `StoreTurn.kept?`
    * `StoreTurn.objectAcl`
    * `StoreTurn.bucketAcl`
    * `StoreTurn.stands`
    * `MemoryStore.Follows`
    * `MemoryStore.ShowsOpen`
    * `MemoryStore.Shows`

  Main statements:
    * `MemoryStore.Follows.turn`
    * `MemoryStore.Follows.run`
    * `MemoryStore.Follows.shows`
    * `MemoryStore.run_shows_past`
-/

------------------------------------------------------------
-- The Past of a Store
------------------------------------------------------------

namespace StorageRouting

/- A call that was made at a moment, and what it was answered. -/
structure StoreTurn where
  now : Moment
  call : StoreCall
  answer : Except Error StoreAnswer

/- A body that was stored, and what was answered to that. -/
structure Deposit where
  now : Moment
  body : Body
  contentType : Option String
  info : ObjectInfo

namespace Deposit

/- The object that a deposit makes, with an access list. -/
def object
    (d : Deposit)
    (acl : CannedAcl) : StoredObject :=
  { StoredObject.fresh d.now d.body.content d.contentType with
    acl }

end Deposit

namespace StoreTurn

/-
  What the last turn of a past tells, of those that tell
  anything.
-/
def lastOf
    {α : Type}
    (tells : StoreTurn → Option α)
    (past : List StoreTurn) : Option α :=
  past.reverse.findSome? tells

theorem lastOf_concat
    {α : Type}
    (tells : StoreTurn → Option α)
    (past : List StoreTurn)
    (turn : StoreTurn) :
    lastOf tells (past ++ [turn]) =
      (tells turn).or (lastOf tells past) := by
  rw [lastOf, List.reverse_concat, List.findSome?_cons, lastOf]
  cases tells turn <;> rfl

/-
  What a successful turn leaves at a key: a put leaves what it
  stored, a delete leaves nothing.
-/
def leaves?
    (bucket key : String) : StoreTurn → Option (Option Deposit)
| ⟨now, .put b k body _ contentType, .ok (.stored info)⟩ =>
    if b = bucket ∧ k = key then
      some (some ⟨now, body, contentType, info⟩)
    else none
| ⟨_, .delete b k, .ok _⟩ =>
    if b = bucket ∧ k = key then some none else none
| _ => none

/-
  The access list that a successful turn gives to an object; a
  put keeps the object for the owner alone.
-/
def objectAcl?
    (bucket key : String) : StoreTurn → Option CannedAcl
| ⟨_, .put b k _ _ _, .ok _⟩ =>
    if b = bucket ∧ k = key then some .personal else none
| ⟨_, .setAcl b (some k) acl, .ok _⟩ =>
    if b = bucket ∧ k = key then some acl else none
| _ => none

/-
  The access list that a successful turn gives to a bucket; one
  that is created is for the owner alone.
-/
def bucketAcl?
    (bucket : String) : StoreTurn → Option CannedAcl
| ⟨_, .createBucket b, .ok _⟩ =>
    if b = bucket then some .personal else none
| ⟨_, .setAcl b none acl, .ok _⟩ =>
    if b = bucket then some acl else none
| _ => none

/- Whether a bucket stands after a successful turn. -/
def stands? (bucket : String) : StoreTurn → Option Bool
| ⟨_, .createBucket b, .ok _⟩ =>
    if b = bucket then some true else none
| ⟨_, .deleteBucket b, .ok _⟩ =>
    if b = bucket then some false else none
| _ => none

/- A turn that fails tells nothing. -/
theorem tells_nothing_of_error
    (now : Moment)
    (call : StoreCall)
    (e : Error) :
    let turn : StoreTurn := ⟨now, call, .error e⟩
    (∀ bucket key, leaves? bucket key turn = none) ∧
      (∀ bucket key, objectAcl? bucket key turn = none) ∧
      (∀ bucket, bucketAcl? bucket turn = none) ∧
      (∀ bucket, stands? bucket turn = none) := by
  cases call with
  | setAcl b k acl =>
      cases k <;>
        simp [leaves?, objectAcl?, bucketAcl?, stands?]
  | _ => simp [leaves?, objectAcl?, bucketAcl?, stands?]

/-
  What the last successful put stored at a key, if no delete
  succeeded since.
-/
def kept?
    (bucket key : String)
    (past : List StoreTurn) : Option Deposit :=
  (lastOf (leaves? bucket key) past).join

/-
  The access list that an object was last given since the last
  successful put.
-/
def objectAcl
    (bucket key : String)
    (past : List StoreTurn) : CannedAcl :=
  (lastOf (objectAcl? bucket key) past).getD .personal

/-
  The access list that a bucket was last given since its latest
  creation.
-/
def bucketAcl
    (bucket : String)
    (past : List StoreTurn) : CannedAcl :=
  (lastOf (bucketAcl? bucket) past).getD .personal

/-
  Whether a bucket stands: it was last created, and not deleted,
  or neither, and it is the one that the store began with.
-/
def stands
    (config : BackendConfig)
    (bucket : String)
    (past : List StoreTurn) : Bool :=
  (lastOf (stands? bucket) past).getD
    (config.autoCreateBucket &&
      config.defaultBucket == some bucket)

/- Whether the store was closed. -/
def closed (past : List StoreTurn) : Bool :=
  past.any (·.call.closes)

/- Make calls on a store, each at its moment. -/
def run
    (config : BackendConfig) :
    List (Moment × StoreCall) → MemoryStore →
      List StoreTurn × MemoryStore
| [], m => ([], m)
| (now, call) :: calls, m =>
    let (answer, m) := call.run (MemoryStore.alone now config) m
    let (past, m) := run config calls m
    (⟨now, call, answer⟩ :: past, m)

end StoreTurn

end StorageRouting

------------------------------------------------------------
-- Stores That Follow Their Past
------------------------------------------------------------

namespace StorageRouting

open StoreTurn

/- A store holds what its past tells, and nothing else. -/
structure MemoryStore.Follows
    (config : BackendConfig)
    (past : List StoreTurn)
    (m : MemoryStore) : Prop where
  owner : m.owner = config.name
  closed : m.closed = StoreTurn.closed past
  objects :
    ∀ bucket key,
      m.objectAt bucket key =
        (kept? bucket key past).map
          (fun d => d.object (objectAcl bucket key past))
  buckets :
    ∀ bucket,
      m.aclAt bucket =
        if stands config bucket past then
          some (bucketAcl bucket past)
        else none
  stored :
    ∀ bucket key d,
      kept? bucket key past = some d →
      d.body.Unbroken ∧
        ∀ acl, d.info = (d.object acl).info key

namespace MemoryStore.Follows

variable {config : BackendConfig} {past : List StoreTurn}
variable {m m' : MemoryStore}

/- What a store begins with follows from an empty past. -/
theorem start
    (h : MemoryStore.ofConfig config = .ok m) :
    Follows config [] m := by
  unfold ofConfig at h
  cases hCheck : config.preCheck with
  | error e => simp [hCheck] at h
  | ok u =>
      simp only [hCheck] at h
      split at h
      · rename_i bucket hCreate hDefault
        cases h
        refine ⟨rfl, rfl, ?_, ?_, by simp [kept?, lastOf]⟩
        · intro name key
          rw [objectAt_setBucket]
          split <;> rfl
        · intro name
          rw [aclAt_setBucket]
          by_cases hName : name = bucket
          · simp [hName, stands, lastOf, hCreate, hDefault,
              bucketAcl, MemoryBucket.empty]
          · simp [hName, stands, lastOf, hDefault, Ne.symm hName]
            rfl
      · rename_i hNone
        cases h
        refine
          ⟨rfl, rfl, fun _ _ => rfl, ?_, by simp [kept?, lastOf]⟩
        intro name
        have hNot : stands config name [] = false := by
          cases hCreate : config.autoCreateBucket <;>
            cases hDefault : config.defaultBucket <;>
            simp_all [stands, lastOf]
        rw [hNot]
        rfl

/- A complete configuration has a store to begin with. -/
theorem exists_start
    (h : config.preCheck = .ok ()) :
    ∃ first,
      MemoryStore.ofConfig config = .ok first ∧
      Follows config [] first := by
  have hFirst : ∃ first, ofConfig config = .ok first := by
    unfold ofConfig
    rw [h]
    dsimp only
    split <;> exact ⟨_, rfl⟩
  rcases hFirst with ⟨first, hFirst⟩
  exact ⟨first, hFirst, start hFirst⟩

/- After a turn that fails, the same is told of the past. -/
theorem fail
    (h : Follows config past m)
    (now : Moment)
    {call : StoreCall}
    (hCall : call.closes = false)
    (e : Error) :
    Follows config (past ++ [⟨now, call, .error e⟩]) m := by
  rcases tells_nothing_of_error now call e with
    ⟨hLeaves, hObjectAcl, hBucketAcl, hStands⟩
  have hKept :
      ∀ bucket key,
        kept? bucket key (past ++ [⟨now, call, .error e⟩]) =
          kept? bucket key past := by
    intro bucket key
    simp only [kept?, lastOf_concat, hLeaves, Option.none_or]
  refine ⟨h.owner, ?_, ?_, ?_, ?_⟩
  · simp [h.closed, StoreTurn.closed, hCall]
  · intro bucket key
    simp only [hKept, objectAcl, lastOf_concat, hObjectAcl,
      Option.none_or]
    exact h.objects bucket key
  · intro bucket
    simp only [stands, bucketAcl, lastOf_concat, hStands,
      hBucketAcl, Option.none_or]
    exact h.buckets bucket
  · intro bucket key d hDeposit
    rw [hKept] at hDeposit
    exact h.stored bucket key d hDeposit

/- A turn that succeeds tells its effect. -/
theorem succeed
    (h : Follows config past m)
    {now : Moment}
    {call : StoreCall}
    {answer : StoreAnswer}
    (hEffect : Effect now m call answer m') :
    Follows config (past ++ [⟨now, call, .ok answer⟩]) m' := by
  refine ⟨hEffect.owner.trans h.owner, ?_, ?_, ?_, ?_⟩
  · simp [hEffect.closed, h.closed, StoreTurn.closed]
  · intro bucket key
    rw [hEffect.objects, h.objects, kept?, kept?, objectAcl,
      objectAcl, lastOf_concat, lastOf_concat]
    cases call with
    | put b k body size contentType =>
        rcases hEffect.stored b k body size contentType rfl with
          ⟨_, rfl⟩
        by_cases hSame : b = bucket ∧ k = key
        · simp [leaves?, objectAcl?, StoreCall.onObject, hSame,
            Deposit.object, StoredObject.fresh]
        · simp [leaves?, objectAcl?, StoreCall.onObject, hSame]
    | delete b k =>
        by_cases hSame : b = bucket ∧ k = key <;>
          simp [leaves?, objectAcl?, StoreCall.onObject, hSame]
    | setAcl b k acl =>
        cases k with
        | none => rfl
        | some k =>
            by_cases hSame : b = bucket ∧ k = key
            · simp [leaves?, objectAcl?, StoreCall.onObject, hSame,
                Deposit.object, Function.comp_def]
            · simp [leaves?, objectAcl?, StoreCall.onObject, hSame]
    | _ => rfl
  · intro bucket
    rw [hEffect.buckets, h.buckets, stands, stands, bucketAcl,
      bucketAcl, lastOf_concat, lastOf_concat]
    cases call with
    | createBucket b =>
        by_cases hSame : b = bucket <;>
          simp [stands?, bucketAcl?, StoreCall.onBucket, hSame]
    | deleteBucket b =>
        by_cases hSame : b = bucket <;>
          simp [stands?, bucketAcl?, StoreCall.onBucket, hSame]
    | setAcl b k acl =>
        cases k with
        | none =>
            by_cases hSame : b = bucket
            · simp [stands?, bucketAcl?, StoreCall.onBucket, hSame]
            · simp [stands?, bucketAcl?, StoreCall.onBucket, hSame]
        | some k => rfl
    | _ => rfl
  · intro bucket key d hDeposit
    rw [kept?, lastOf_concat] at hDeposit
    cases call with
    | put b k body size contentType =>
        rcases hEffect.stored b k body size contentType rfl with
          ⟨hWhole, rfl⟩
        by_cases hSame : b = bucket ∧ k = key
        · rcases hSame with ⟨rfl, rfl⟩
          simp only [leaves?, and_self, if_true, Option.some_or,
            Option.join_some] at hDeposit
          cases hDeposit
          exact ⟨hWhole, fun _ => rfl⟩
        · simp only [leaves?, hSame, if_false, Option.none_or]
            at hDeposit
          exact h.stored bucket key d hDeposit
    | delete b k =>
        by_cases hSame : b = bucket ∧ k = key
        · simp [leaves?, hSame] at hDeposit
        · simp only [leaves?, hSame, if_false, Option.none_or]
            at hDeposit
          exact h.stored bucket key d hDeposit
    | _ => exact h.stored bucket key d hDeposit

/- A store follows its past through every call. -/
theorem turn
    (h : Follows config past m)
    (now : Moment)
    (call : StoreCall) :
    let r := call.run (MemoryStore.alone now config) m
    Follows config (past ++ [⟨now, call, r.1⟩]) r.2 := by
  dsimp only
  rcases StoreCall.run_outcome m now config call with
    ⟨e, hRun⟩ | ⟨answer, m', hRun, hEffect⟩
  · have hCall : call.closes = false := by
      cases call with
      | close => cases congrArg Prod.fst hRun
      | _ => rfl
    rw [hRun]
    exact h.fail now hCall e
  · rw [hRun]
    exact h.succeed hEffect

/- A store follows its past through every run of calls. -/
theorem run
    (h : Follows config past m)
    (calls : List (Moment × StoreCall)) :
    let r := StoreTurn.run config calls m
    Follows config (past ++ r.1) r.2 := by
  induction calls generalizing past m with
  | nil =>
      dsimp only [StoreTurn.run]
      rw [List.append_nil]
      exact h
  | cons c calls ih =>
      rcases c with ⟨now, call⟩
      have hLater := ih (h.turn now call)
      dsimp only at hLater
      rw [List.append_assoc] at hLater
      exact hLater

end MemoryStore.Follows

end StorageRouting

------------------------------------------------------------
-- What a Store Shows
------------------------------------------------------------

namespace StorageRouting

open StoreTurn

/-
  What an open store shows at a moment, told from its past: an
  object has the content and the type of what is kept at its
  key, and is not found if nothing is; access lists are those
  last given; what is kept and what stands can be looked up; and
  a call succeeds if the past admits it.
-/
structure MemoryStore.ShowsOpen
    (config : BackendConfig)
    (past : List StoreTurn)
    (m : MemoryStore)
    (now : Moment) : Prop where
  content :
    ∀ bucket key d,
      kept? bucket key past = some d →
      d.body.Unbroken ∧
        (StoreCall.get bucket key).run
            (MemoryStore.alone now config) m =
          (.ok (.body (Body.ofBytes d.body.content)), m)
  missing :
    ∀ bucket key,
      kept? bucket key past = none →
      ∃ text,
        (StoreCall.get bucket key).run
            (MemoryStore.alone now config) m =
          (.error (.notFound text), m)
  contentType :
    ∀ bucket key d,
      kept? bucket key past = some d →
      d.info.contentType = d.contentType ∧
        ∃ page,
          (StoreCall.list bucket (StorageClient.exactKey key)).run
              (MemoryStore.alone now config) m =
            (.ok (.page page), m) ∧
          d.info ∈ page.items ∧ d.info.key = key
  objectAcl :
    ∀ bucket key d,
      kept? bucket key past = some d →
      (StoreCall.getAcl bucket (some key)).run
          (MemoryStore.alone now config) m =
        (.ok
          (.policy
            ⟨some config.name,
              (objectAcl bucket key past).grants config.name⟩),
          m)
  bucketAcl :
    ∀ bucket,
      stands config bucket past = true →
      (StoreCall.getAcl bucket none).run
          (MemoryStore.alone now config) m =
        (.ok
          (.policy
            ⟨some config.name,
              (bucketAcl bucket past).grants config.name⟩),
          m)
  lookup :
    ∀ bucket key,
      (StoreCall.hasObject bucket key).run
          (MemoryStore.alone now config) m =
        (.ok (.flag (kept? bucket key past).isSome), m)
  standing :
    ∀ bucket,
      (StoreCall.hasBucket bucket).run
          (MemoryStore.alone now config) m =
        (.ok (.flag (stands config bucket past)), m)
  succeeds :
    ∀ call : StoreCall,
      (∃ answer,
          (call.run (MemoryStore.alone now config) m).1 =
            .ok answer) ↔
        call.Admissible
          (fun bucket => stands config bucket past)
          (fun bucket key => (kept? bucket key past).isSome) now

/-
  What a store shows at a moment.  A call that fails changes
  nothing, and one that succeeds changes only what it names.
  After the store is closed, every call fails but to close it,
  and so does a probe.
-/
structure MemoryStore.Shows
    (config : BackendConfig)
    (past : List StoreTurn)
    (m : MemoryStore)
    (now : Moment) : Prop where
  whileOpen :
    StoreTurn.closed past = false → ShowsOpen config past m now
  failure :
    ∀ (call : StoreCall) e,
      (call.run (MemoryStore.alone now config) m).1 = .error e →
      (call.run (MemoryStore.alone now config) m).2 = m
  otherObjects :
    ∀ (call : StoreCall) bucket key,
      call.target? ≠ some (bucket, some key) →
      (call.run (MemoryStore.alone now config) m).2.objectAt
          bucket key =
        m.objectAt bucket key
  otherBuckets :
    ∀ (call : StoreCall) bucket,
      call.target? ≠ some (bucket, none) →
      (call.run (MemoryStore.alone now config) m).2.aclAt bucket =
        m.aclAt bucket
  refused :
    StoreTurn.closed past = true →
    ∀ call : StoreCall,
      call ≠ .close →
      ∃ text,
        call.run (MemoryStore.alone now config) m =
          (.error (.backendOperationFailed text), m)
  probe :
    ∃ text,
      (MemoryStore.alone now config).probe m =
        (some
          (if StoreTurn.closed past then
            .error (.backendOperationFailed text)
          else .ok ()), m)

namespace MemoryStore.Follows

variable {config : BackendConfig} {past : List StoreTurn}
variable {m : MemoryStore}

/- The object that is made of what is kept at a key. -/
theorem objectAt_of_kept?
    (h : Follows config past m)
    {bucket key : String}
    {d : Deposit}
    (hKept : kept? bucket key past = some d) :
    m.objectAt bucket key =
      some (d.object (objectAcl bucket key past)) := by
  rw [h.objects, hKept, Option.map_some]

/- The first page of keys that start with a key shows it. -/
theorem list_exactKey
    (h : Follows config past m)
    (hOpen : m.closed = false)
    {bucket key : String}
    {d : Deposit}
    (hKept : kept? bucket key past = some d) :
    ∃ page,
      m.list bucket (StorageClient.exactKey key) = .ok page ∧
      d.info ∈ page.items := by
  have hObject := h.objectAt_of_kept? hKept
  have hInfo :
      (d.object (objectAcl bucket key past)).info key = d.info :=
    ((h.stored bucket key d hKept).2 _).symm
  have hStart :
      (StorageClient.exactKey key).keyStart.getD "" ++ "" = key :=
    String.append_empty
  have hListed :
      m.Lists bucket (StorageClient.exactKey key) d.info := by
    rw [← hStart] at hObject
    have hLists := lists_of_objectAt hObject (.inl rfl)
    rw [hStart, hInfo] at hLists
    exact hLists
  refine
    ⟨_, list_of_serves (serves_of_objectAt hOpen hObject) _, ?_⟩
  refine
    mem_cutPage_of_least rfl (entries_ascending _ _ _)
      (mem_entries_iff.mpr hListed) ?_
  intro other hOther
  have hKey : d.info.key = key := by
    rw [← hInfo]
    rfl
  rw [hKey]
  exact not_lt_of_lists (mem_entries_iff.mp hOther)

/- What the past tells to be kept and to stand is what is. -/
theorem holds_eq
    (h : Follows config past m)
    (bucket key : String) :
    (m.objectAt bucket key).isSome =
      (kept? bucket key past).isSome := by
  rw [h.objects, Option.isSome_map]

theorem stands_eq
    (h : Follows config past m)
    (bucket : String) :
    (m.aclAt bucket).isSome = stands config bucket past := by
  rw [h.buckets]
  cases stands config bucket past <;> rfl

/- An open store that follows its past shows it. -/
theorem showsOpen
    (h : Follows config past m)
    (hOpen : m.closed = false)
    (now : Moment) : ShowsOpen config past m now where
  content := by
    intro bucket key d hKept
    refine ⟨(h.stored bucket key d hKept).1, ?_⟩
    have hGet :
        m.get bucket key = .ok (Body.ofBytes d.body.content) :=
      (get_eq_ok_iff hOpen).mpr
        ⟨_, h.objectAt_of_kept? hKept, rfl⟩
    rw [StoreCall.run_get, hGet]
    rfl
  missing := by
    intro bucket key hNone
    have hObject : m.objectAt bucket key = none := by
      rw [h.objects, hNone, Option.map_none]
    rcases get_of_objectAt hOpen hObject with ⟨text, hGet⟩
    refine ⟨text, ?_⟩
    rw [StoreCall.run_get, hGet]
    rfl
  contentType := by
    intro bucket key d hKept
    have hInfo := (h.stored bucket key d hKept).2 .personal
    rcases h.list_exactKey hOpen hKept with ⟨page, hPage, hMem⟩
    refine
      ⟨by rw [hInfo]; rfl, page, ?_, hMem, by rw [hInfo]; rfl⟩
    rw [StoreCall.run_list, hPage]
    rfl
  objectAcl := by
    intro bucket key d hKept
    have hAcl :=
      (getAcl_some_eq_ok_iff hOpen).mpr
        ⟨_, h.objectAt_of_kept? hKept, rfl⟩
    rw [StoreCall.run_getAcl, hAcl, h.owner]
    rfl
  bucketAcl := by
    intro bucket hStands
    have hBucket :
        m.aclAt bucket = some (bucketAcl bucket past) := by
      rw [h.buckets, if_pos hStands]
    have hAcl :=
      (getAcl_none_eq_ok_iff hOpen).mpr ⟨_, hBucket, rfl⟩
    rw [StoreCall.run_getAcl, hAcl, h.owner]
    rfl
  lookup := by
    intro bucket key
    rw [StoreCall.run_hasObject, hasObject_eq hOpen, h.holds_eq]
    rfl
  standing := by
    intro bucket
    rw [StoreCall.run_hasBucket, hasBucket_eq hOpen, h.stands_eq]
    rfl
  succeeds := by
    intro call
    have hSucceeds :=
      StoreCall.run_succeeds_iff hOpen now config call
    simpa only [h.holds_eq, h.stands_eq] using hSucceeds

/- A store that follows its past shows it. -/
theorem shows
    (h : Follows config past m)
    (now : Moment) : Shows config past m now where
  whileOpen := by
    intro hStays
    exact h.showsOpen (h.closed.trans hStays) now
  failure := by
    intro call e hFail
    rcases StoreCall.run_outcome m now config call with
      ⟨e', hRun⟩ | ⟨answer, m', hRun, _⟩
    · rw [hRun]
    · rw [hRun] at hFail
      cases hFail
  otherObjects := by
    intro call bucket key hOther
    rcases StoreCall.run_outcome m now config call with
      ⟨e, hRun⟩ | ⟨answer, m', hRun, hEffect⟩
    · rw [hRun]
    · rw [hRun, hEffect.objects]
      exact StoreCall.onObject_of_target?_ne hOther now _
  otherBuckets := by
    intro call bucket hOther
    rcases StoreCall.run_outcome m now config call with
      ⟨e, hRun⟩ | ⟨answer, m', hRun, hEffect⟩
    · rw [hRun]
    · rw [hRun, hEffect.buckets]
      exact StoreCall.onBucket_of_target?_ne hOther _
  refused := by
    intro hClosed call hCall
    have hNot : call.closes = false := by
      cases call with
      | close => exact absurd rfl hCall
      | _ => rfl
    exact
      ⟨_,
        StoreCall.run_of_closed (h.closed.trans hClosed) hNot now
          config⟩
  probe := by
    refine ⟨"Backend '" ++ m.owner ++ "' is closed", ?_⟩
    rw [← h.closed]
    rfl

end MemoryStore.Follows

namespace MemoryStore

/-
  A store in memory, by its history.  With every configuration
  that is complete there is a store to begin with, and after
  every run of calls on it, with any arguments, it shows at any
  moment what the past of the run tells.
-/
theorem run_shows_past
    (config : BackendConfig)
    (hComplete : config.preCheck = .ok ()) :
    ∃ first,
      ofConfig config = .ok first ∧
      ∀ calls now,
        let (past, m) := StoreTurn.run config calls first
        m.Shows config past now := by
  rcases Follows.exists_start hComplete with
    ⟨first, hFirst, hStart⟩
  refine ⟨first, hFirst, ?_⟩
  intro calls now
  exact (hStart.run calls).shows now

/- A complete configuration whose bucket is created. -/
def sampleConfig : BackendConfig :=
  { BackendConfig.new "one" "memory://" "key" "secret" with
    defaultBucket := some "own", autoCreateBucket := true }

/- A body in two chunks. -/
def sampleBody : Body :=
  [.ok (Bytes.ofList [104, 101]), .ok (Bytes.ofList [121])]

/-
  An object is stored and shown to all; a body that breaks off,
  one of the wrong size and the removal of a bucket that is not
  empty are refused; a key without an object is deleted; and
  another bucket is created.
-/
def sampleCalls : List (Moment × StoreCall) :=
  [(default, .put "own" "a" sampleBody (some 3) (some "text")),
    (default, .setAcl "own" (some "a") .publicRead),
    (default, .put "own" "a" [.ok Bytes.empty, .error (.io "")]
      none none),
    (default, .put "own" "b" sampleBody (some 2) none),
    (default, .deleteBucket "own"),
    (default, .delete "own" "c"),
    (default, .createBucket "more")]

/- What the sample's store shows in the end. -/
theorem sampleCalls_shown :
    sampleConfig.preCheck = .ok () ∧
    ∃ first,
      ofConfig sampleConfig = .ok first ∧
      let (past, m) := StoreTurn.run sampleConfig sampleCalls first
      let a := alone default sampleConfig
      (past.map (fun turn => turn.answer.isOk)) =
          [true, true, false, false, false, true, true] ∧
        (StoreCall.get "own" "a").run a m =
          (.ok (.body (Body.ofBytes sampleBody.content)), m) ∧
        (StoreCall.getAcl "own" (some "a")).run a m =
          (.ok
            (.policy
              ⟨some "one", CannedAcl.publicRead.grants "one"⟩),
            m) ∧
        ∃ text,
          (StoreCall.get "own" "b").run a m =
            (.error (.notFound text), m) := by
  have hComplete : sampleConfig.preCheck = .ok () := by decide
  rcases run_shows_past sampleConfig hComplete with
    ⟨first, hFirst, hShows⟩
  refine ⟨hComplete, first, hFirst, ?_⟩
  have hLast := hShows sampleCalls default
  cases hFirst
  dsimp only at hLast ⊢
  have hOpen := hLast.whileOpen (by decide)
  refine ⟨by decide, ?_, ?_, ?_⟩
  · exact (hOpen.content "own" "a" _ rfl).2
  · exact hOpen.objectAcl "own" "a" _ rfl
  · exact hOpen.missing "own" "b" rfl

end MemoryStore

end StorageRouting
