import StorageRouting.Proofs.Backend.ClientCall

/-
  What a call of a store in memory can do: it is refused and
  changes nothing, or it has one of a few effects, each at the
  object or the bucket that it names.

  Key definitions include:
    * `Body.content`
    * `StoreCall`
    * `StoreCall.run`
    * `StoreCall.Admissible`
    * `MemoryStore.objectAt`
    * `MemoryStore.aclAt`
    * `MemoryStore.Effect`

  Main statements:
    * `Body.collect_eq_ok_iff`
    * `StoreCall.run_of_closed`
    * `StoreCall.run_cases`
    * `StoreCall.run_succeeds_iff`
    * `MemoryStore.Effect.objectAt_eq`
    * `MemoryStore.Effect.aclAt_eq`
-/

------------------------------------------------------------
-- Bodies
------------------------------------------------------------

namespace StorageRouting

namespace Body

/- The bytes of a chunk; an error in its place has none. -/
def chunkBytes : Except Error Bytes → List UInt8
| .ok chunk => chunk.data.toList
| .error _ => []

/- All chunks of a body in a row. -/
def content (body : Body) : Bytes :=
  Bytes.ofList (body.flatMap chunkBytes)

/- Whether a body arrives whole. -/
def Unbroken (body : Body) : Prop :=
  ∀ e, .error e ∉ body

theorem collectFrom_eq_ok_iff
    {body : Body}
    {acc data : Bytes} :
    collectFrom acc body = .ok data ↔
      body.Unbroken ∧
      data.data.toList =
        acc.data.toList ++ body.flatMap chunkBytes := by
  induction body generalizing acc with
  | nil =>
      have hSame :
          acc = data ↔ data.data.toList = acc.data.toList := by
        rw [Array.toList_inj, eq_comm, ByteArray.ext_iff]
      simp [collectFrom, Unbroken, hSame]
  | cons chunk rest ih =>
      cases chunk with
      | ok chunk =>
          rw [collectFrom, ih]
          simp [Unbroken, chunkBytes]
      | error e =>
          have hBroken :
              ¬ Unbroken (.error e :: rest : Body) := by
            intro h
            exact h e List.mem_cons_self
          simp [collectFrom, hBroken]

/- A body is collected if it arrives whole. -/
theorem collect_eq_ok_iff
    {body : Body}
    {data : Bytes} :
    body.collect = .ok data ↔
      body.Unbroken ∧ data = body.content := by
  have hSame :
      data = body.content ↔
        data.data.toList = body.flatMap chunkBytes := by
    rw [ByteArray.ext_iff, ← Array.toList_inj]
    rfl
  rw [hSame, collect, collectFrom_eq_ok_iff]
  rfl

end Body

end StorageRouting

------------------------------------------------------------
-- Calls of a Store
------------------------------------------------------------

namespace StorageRouting

/- What is stored of a body that arrives whole. -/
def StoredObject.fresh
    (now : Moment)
    (data : Bytes)
    (contentType : Option String) : StoredObject :=
  { data, contentType, modified := now
    etag := SipHash.tag data, acl := .personal }

/- A call of a store, or the closing of it. -/
inductive StoreCall where
| put
    (bucket key : String)
    (body : Body)
    (size : Option Nat)
    (contentType : Option String) : StoreCall
| get (bucket key : String) : StoreCall
| delete (bucket key : String) : StoreCall
| list (bucket : String) (options : ListOptions) : StoreCall
| hasObject (bucket key : String) : StoreCall
| hasBucket (bucket : String) : StoreCall
| createBucket (bucket : String) : StoreCall
| deleteBucket (bucket : String) : StoreCall
| setAcl
    (bucket : String)
    (key : Option String)
    (acl : CannedAcl) : StoreCall
| getAcl (bucket : String) (key : Option String) : StoreCall
| link
    (bucket key : String)
    (method : LinkMethod)
    (ttl : Nat) : StoreCall
| close : StoreCall

/- What a call is answered with. -/
inductive StoreAnswer where
| stored (info : ObjectInfo) : StoreAnswer
| body (body : Body) : StoreAnswer
| page (page : ListPage) : StoreAnswer
| flag (b : Bool) : StoreAnswer
| policy (policy : AccessPolicy) : StoreAnswer
| text (text : String) : StoreAnswer
| done : StoreAnswer

namespace StoreCall

variable {σ α : Type}

/- An action whose answer is put into a common form. -/
def answering
    (f : α → StoreAnswer)
    (a : Action σ α) : Action σ StoreAnswer :=
  fun s => ((a s).1.map f, (a s).2)

/- Make a call on an adapter. -/
def run
    (a : Adapter σ) : StoreCall → Action σ StoreAnswer
| .put bucket key body size contentType =>
    answering .stored (a.put bucket key body size contentType)
| .get bucket key => answering .body (a.get bucket key)
| .delete bucket key =>
    answering (fun _ => .done) (a.delete bucket key)
| .list bucket options => answering .page (a.list bucket options)
| .hasObject bucket key =>
    answering .flag (a.hasObject bucket key)
| .hasBucket bucket => answering .flag (a.hasBucket bucket)
| .createBucket bucket =>
    answering (fun _ => .done) (a.createBucket bucket)
| .deleteBucket bucket =>
    answering (fun _ => .done) (a.deleteBucket bucket)
| .setAcl bucket key acl =>
    answering (fun _ => .done) (a.setAcl bucket key acl)
| .getAcl bucket key => answering .policy (a.getAcl bucket key)
| .link bucket key method ttl =>
    answering .text (a.link bucket key method ttl)
| .close => answering (fun _ => .done) a.close

/-
  Whether a call may succeed, given which buckets there are, and
  which objects in them.
-/
def Admissible
    (stands : String → Bool)
    (holds : String → String → Bool)
    (now : Moment) : StoreCall → Prop
| .put bucket _ body size _ =>
    stands bucket = true ∧
    body.Unbroken ∧
    ∀ n ∈ size, n = body.content.size
| .get bucket key => holds bucket key = true
| .delete bucket _ => stands bucket = true
| .list bucket _ => stands bucket = true
| .hasObject _ _ => True
| .hasBucket _ => True
| .createBucket bucket => stands bucket = false
| .deleteBucket bucket =>
    stands bucket = true ∧ ∀ key, holds bucket key = false
| .setAcl bucket none _ => stands bucket = true
| .setAcl bucket (some key) _ => holds bucket key = true
| .getAcl bucket none => stands bucket = true
| .getAcl bucket (some key) => holds bucket key = true
| .link _ _ _ ttl => (now.after? ttl).isSome = true
| .close => True

/- Whether a call closes the store. -/
def closes : StoreCall → Bool
| .close => true
| _ => false

/-
  What a call changes, if it succeeds: an object, or a bucket
  but for its objects.
-/
def target? : StoreCall → Option (String × Option String)
| .put bucket key _ _ _ => some (bucket, some key)
| .delete bucket key => some (bucket, some key)
| .createBucket bucket => some (bucket, none)
| .deleteBucket bucket => some (bucket, none)
| .setAcl bucket key _ => some (bucket, key)
| _ => none

/- What a call that succeeds makes of an object. -/
def onObject
    (now : Moment)
    (bucket key : String)
    (o? : Option StoredObject) :
    StoreCall → Option StoredObject
| .put b k body _ contentType =>
    if b = bucket ∧ k = key then
      some (StoredObject.fresh now body.content contentType)
    else o?
| .delete b k => if b = bucket ∧ k = key then none else o?
| .setAcl b (some k) acl =>
    if b = bucket ∧ k = key then o?.map (fun o => { o with acl })
    else o?
| _ => o?

/-
  What a call that succeeds makes of the access list of a
  bucket, which a bucket has as long as it is there.
-/
def onBucket
    (bucket : String)
    (acl? : Option CannedAcl) :
    StoreCall → Option CannedAcl
| .createBucket b => if b = bucket then some .personal else acl?
| .deleteBucket b => if b = bucket then none else acl?
| .setAcl b none acl =>
    if b = bucket then acl?.map (fun _ => acl) else acl?
| _ => acl?

/- An object that a call does not change stays as it is. -/
theorem onObject_of_target?_ne
    {call : StoreCall}
    {bucket key : String}
    (h : call.target? ≠ some (bucket, some key))
    (now : Moment)
    (o? : Option StoredObject) :
    call.onObject now bucket key o? = o? := by
  cases call with
  | setAcl b k acl => cases k <;> simp_all [target?, onObject]
  | _ => simp_all [target?, onObject]

/- A bucket that a call does not change stays as it is. -/
theorem onBucket_of_target?_ne
    {call : StoreCall}
    {bucket : String}
    (h : call.target? ≠ some (bucket, none))
    (acl? : Option CannedAcl) :
    call.onBucket bucket acl? = acl? := by
  cases call with
  | setAcl b k acl => cases k <;> simp_all [target?, onBucket]
  | _ => simp_all [target?, onBucket]

end StoreCall

end StorageRouting

------------------------------------------------------------
-- Places in a Store
------------------------------------------------------------

namespace StorageRouting

namespace MemoryStore

variable {m : MemoryStore}

/- The object at a key of a bucket. -/
def objectAt
    (m : MemoryStore)
    (bucket key : String) : Option StoredObject :=
  (m.buckets.get? bucket).bind (fun b => b.objects.get? key)

/- The access list of a bucket, if the bucket is there. -/
def aclAt
    (m : MemoryStore)
    (bucket : String) : Option CannedAcl :=
  (m.buckets.get? bucket).map (·.acl)

theorem aclAt_isSome
    (m : MemoryStore)
    (bucket : String) :
    (m.aclAt bucket).isSome = m.buckets.contains bucket :=
  Option.isSome_map

/- An object stands in a bucket. -/
theorem aclAt_isSome_of_objectAt
    {bucket key : String}
    (h : (m.objectAt bucket key).isSome = true) :
    (m.aclAt bucket).isSome = true := by
  unfold objectAt at h
  unfold aclAt
  cases hBucket : m.buckets.get? bucket with
  | none => simp [hBucket] at h
  | some b => rfl

theorem objectAt_setBucket
    (m : MemoryStore)
    (name : String)
    (b : MemoryBucket)
    (bucket key : String) :
    (m.setBucket name b).objectAt bucket key =
      if bucket = name then b.objects.get? key
      else m.objectAt bucket key := by
  simp only [objectAt, setBucket, Dictionary.get?_insert]
  split <;> rfl

theorem aclAt_setBucket
    (m : MemoryStore)
    (name : String)
    (b : MemoryBucket)
    (bucket : String) :
    (m.setBucket name b).aclAt bucket =
      if bucket = name then some b.acl else m.aclAt bucket := by
  simp only [aclAt, setBucket, Dictionary.get?_insert]
  split <;> rfl

/- The objects of a bucket that is there. -/
theorem objectAt_of_get?
    {bucket : String}
    {b : MemoryBucket}
    (h : m.buckets.get? bucket = some b)
    (key : String) :
    m.objectAt bucket key = b.objects.get? key := by
  rw [objectAt, h, Option.bind_some]

/- The access list of a bucket that is there. -/
theorem aclAt_of_get?
    {bucket : String}
    {b : MemoryBucket}
    (h : m.buckets.get? bucket = some b) :
    m.aclAt bucket = some b.acl := by
  rw [aclAt, h, Option.map_some]

/- Objects in a bucket that is put back with one in place. -/
theorem objectAt_setObject
    {name : String}
    {b : MemoryBucket}
    (h : m.buckets.get? name = some b)
    (k : String)
    (o : StoredObject)
    (bucket key : String) :
    (m.setObject name b k o).objectAt bucket key =
      if name = bucket ∧ k = key then some o
      else m.objectAt bucket key := by
  rw [setObject, objectAt_setBucket, Dictionary.get?_insert]
  by_cases hBucket : bucket = name
  · subst hBucket
    rw [objectAt_of_get? h]
    simp [eq_comm]
  · simp [hBucket, Ne.symm hBucket]

theorem aclAt_setObject
    {name : String}
    {b : MemoryBucket}
    (h : m.buckets.get? name = some b)
    (k : String)
    (o : StoredObject)
    (bucket : String) :
    (m.setObject name b k o).aclAt bucket = m.aclAt bucket := by
  rw [setObject, aclAt_setBucket]
  split
  · rename_i hSame
    rw [hSame, aclAt_of_get? h]
  · rfl

end MemoryStore

end StorageRouting

------------------------------------------------------------
-- Effects
------------------------------------------------------------

namespace StorageRouting

namespace MemoryStore

variable {m m' : MemoryStore} {now : Moment}
variable {bucket key : String}

/-
  What a call that succeeds does to a store, and what a put is
  answered.
-/
structure Effect
    (now : Moment)
    (m : MemoryStore)
    (call : StoreCall)
    (answer : StoreAnswer)
    (m' : MemoryStore) : Prop where
  owner : m'.owner = m.owner
  closed : m'.closed = (m.closed || call.closes)
  objects :
    ∀ bucket key,
      m'.objectAt bucket key =
        call.onObject now bucket key (m.objectAt bucket key)
  buckets :
    ∀ bucket,
      m'.aclAt bucket = call.onBucket bucket (m.aclAt bucket)
  stored :
    ∀ bucket key body size contentType,
      call = .put bucket key body size contentType →
      body.Unbroken ∧
        answer =
          .stored
            ((StoredObject.fresh now body.content
              contentType).info key)

theorem ensureOpen_of_open
    (h : m.closed = false) : m.ensureOpen = .ok () := by
  simp [ensureOpen, h]

theorem ensureOpen_of_closed
    (h : m.closed = true) :
    m.ensureOpen = .error (closedError m.owner) := by
  simp [ensureOpen, h]

/- A declared size is accepted if it is that of the body. -/
theorem checkSize_succeeds_iff
    {size : Option Nat}
    {data : Bytes} :
    (∃ u, checkSize bucket key size data = .ok u) ↔
      ∀ n ∈ size, n = data.size := by
  unfold checkSize
  cases size with
  | none => simp
  | some n =>
      by_cases hSize : n = data.size <;> simp [hSize]

/- A sequence of two checks succeeds if both do. -/
theorem bind_eq_ok_iff
    {α β : Type}
    {x : Except Error α}
    {f : α → Except Error β}
    {b : β} :
    x >>= f = .ok b ↔ ∃ a, x = .ok a ∧ f a = .ok b := by
  cases x <;> simp [bind, Except.bind]

/- A bucket is found if it is there. -/
theorem bucket_eq_ok_iff
    {b : MemoryBucket} :
    m.bucket bucket = .ok b ↔ m.buckets.get? bucket = some b := by
  unfold MemoryStore.bucket
  cases m.buckets.get? bucket <;> simp

/- An object is found if it is there. -/
theorem object_eq_ok_iff
    {o : StoredObject} :
    m.object bucket key = .ok o ↔ m.objectAt bucket key = some o := by
  unfold object objectAt
  simp only [bind_eq_ok_iff, bucket_eq_ok_iff,
    Option.bind_eq_some_iff]
  refine exists_congr (fun b => and_congr_right (fun _ => ?_))
  cases b.objects.get? key <;> simp

/- When a body is stored, and what comes of it. -/
theorem put_eq_ok_iff
    (hOpen : m.closed = false)
    {body : Body}
    {size : Option Nat}
    {contentType : Option String}
    {info : ObjectInfo} :
    m.put now bucket key body size contentType = .ok (info, m') ↔
      let o := StoredObject.fresh now body.content contentType
      ∃ b,
        m.buckets.get? bucket = some b ∧
        body.Unbroken ∧
        (∀ n ∈ size, n = body.content.size) ∧
        o.info key = info ∧
        m.setObject bucket b key o = m' := by
  simp only [put, bind_eq_ok_iff, ensureOpen_of_open hOpen,
    bucket_eq_ok_iff, Body.collect_eq_ok_iff]
  constructor
  · rintro ⟨-, -, b, hBucket, data, ⟨hWhole, rfl⟩, u, hSize, hStored⟩
    cases hStored
    exact ⟨b, hBucket, hWhole, checkSize_succeeds_iff.mp ⟨u, hSize⟩,
      rfl, rfl⟩
  · rintro ⟨b, hBucket, hWhole, hSize, rfl, rfl⟩
    rcases checkSize_succeeds_iff.mpr hSize with ⟨u, hChecked⟩
    exact ⟨(), trivial, b, hBucket, _, ⟨hWhole, rfl⟩, u, hChecked,
      rfl⟩

theorem delete_eq_ok_iff
    (hOpen : m.closed = false) :
    m.delete bucket key = .ok ((), m') ↔
      ∃ b,
        m.buckets.get? bucket = some b ∧
        m.setBucket bucket
            { b with objects := b.objects.erase key } =
          m' := by
  simp only [delete, bind_eq_ok_iff, ensureOpen_of_open hOpen,
    bucket_eq_ok_iff]
  simp [pure, Except.pure]

theorem createBucket_eq_ok_iff
    (hOpen : m.closed = false) :
    m.createBucket bucket = .ok ((), m') ↔
      m.aclAt bucket = none ∧
        m.setBucket bucket MemoryBucket.empty = m' := by
  simp only [createBucket, bind_eq_ok_iff,
    ensureOpen_of_open hOpen, ← aclAt_isSome]
  cases m.aclAt bucket <;> simp [pure, Except.pure]

theorem deleteBucket_eq_ok_iff
    (hOpen : m.closed = false) :
    m.deleteBucket bucket = .ok ((), m') ↔
      (m.aclAt bucket).isSome = true ∧
        (∀ key, m.objectAt bucket key = none) ∧
        { m with buckets := m.buckets.erase bucket } = m' := by
  simp only [deleteBucket, bind_eq_ok_iff,
    ensureOpen_of_open hOpen, bucket_eq_ok_iff]
  cases hBucket : m.buckets.get? bucket with
  | none => simp [aclAt, hBucket]
  | some b =>
      simp only [objectAt_of_get? hBucket, aclAt_of_get? hBucket,
        ← Dictionary.isEmpty_iff]
      by_cases hEmpty : b.objects.isEmpty = true <;>
        simp [hEmpty, pure, Except.pure]

theorem setAcl_none_eq_ok_iff
    (hOpen : m.closed = false)
    {acl : CannedAcl} :
    m.setAcl bucket none acl = .ok ((), m') ↔
      ∃ b,
        m.buckets.get? bucket = some b ∧
        m.setBucket bucket { b with acl } = m' := by
  simp only [setAcl, bind_eq_ok_iff, ensureOpen_of_open hOpen,
    bucket_eq_ok_iff]
  simp [pure, Except.pure]

theorem setAcl_some_eq_ok_iff
    (hOpen : m.closed = false)
    {acl : CannedAcl} :
    m.setAcl bucket (some key) acl = .ok ((), m') ↔
      ∃ b o,
        m.buckets.get? bucket = some b ∧
        m.objectAt bucket key = some o ∧
        m.setObject bucket b key { o with acl } = m' := by
  simp only [setAcl, bind_eq_ok_iff, ensureOpen_of_open hOpen,
    bucket_eq_ok_iff, object_eq_ok_iff]
  simp [pure, Except.pure]

end MemoryStore

end StorageRouting

------------------------------------------------------------
-- Outcomes
------------------------------------------------------------

namespace StorageRouting

/- Whether a call only looks at a store. -/
def StoreCall.looks : StoreCall → Bool
| .get _ _ => true
| .list _ _ => true
| .hasObject _ _ => true
| .hasBucket _ => true
| .getAcl _ _ => true
| .link _ _ _ _ => true
| _ => false

namespace MemoryStore

variable {m m' : MemoryStore} {now : Moment}
variable {bucket key : String}

/- A look at a store leaves it as it is. -/
theorem Effect.of_looks
    {call : StoreCall}
    (h : call.looks = true)
    (answer : StoreAnswer) : Effect now m call answer m where
  owner := rfl
  closed := by
    cases call <;> simp_all [StoreCall.looks, StoreCall.closes]
  objects := by
    intro bucket key
    cases call <;> simp_all [StoreCall.looks, StoreCall.onObject]
  buckets := by
    intro bucket
    cases call <;> simp_all [StoreCall.looks, StoreCall.onBucket]
  stored := by
    rintro bucket key body size contentType rfl
    cases h

theorem Effect.of_put
    {body : Body}
    {size : Option Nat}
    {contentType : Option String}
    {b : MemoryBucket}
    (hBucket : m.buckets.get? bucket = some b)
    (hWhole : body.Unbroken) :
    let o := StoredObject.fresh now body.content contentType
    Effect now m (.put bucket key body size contentType)
      (.stored (o.info key)) (m.setObject bucket b key o) where
  owner := rfl
  closed := (Bool.or_false _).symm
  objects := objectAt_setObject hBucket key _
  buckets := aclAt_setObject hBucket key _
  stored := by
    intro name k body' size' contentType' hCall
    cases hCall
    exact ⟨hWhole, rfl⟩

theorem Effect.of_delete
    {b : MemoryBucket}
    (hBucket : m.buckets.get? bucket = some b) :
    Effect now m (.delete bucket key) .done
      (m.setBucket bucket
        { b with objects := b.objects.erase key }) where
  owner := rfl
  closed := (Bool.or_false _).symm
  objects := by
    intro name k
    rw [objectAt_setBucket, Dictionary.get?_erase]
    by_cases hName : name = bucket
    · subst hName
      simp [StoreCall.onObject, objectAt_of_get? hBucket, eq_comm]
    · simp [StoreCall.onObject, hName, Ne.symm hName]
  buckets := by
    intro name
    rw [aclAt_setBucket]
    split
    · rename_i hName
      rw [hName]
      exact (aclAt_of_get? hBucket).symm
    · rfl
  stored := by simp

theorem Effect.of_createBucket
    (hFree : m.aclAt bucket = none) :
    Effect now m (.createBucket bucket) .done
      (m.setBucket bucket MemoryBucket.empty) where
  owner := rfl
  closed := (Bool.or_false _).symm
  objects := by
    intro name k
    rw [objectAt_setBucket]
    split
    · rename_i hName
      have hNone : m.buckets.get? name = none := by
        rw [hName]
        exact Option.map_eq_none_iff.mp hFree
      simp [StoreCall.onObject, objectAt, hNone,
        MemoryBucket.empty, Dictionary.get?_empty]
    · rfl
  buckets := by
    intro name
    rw [aclAt_setBucket]
    simp [StoreCall.onBucket, MemoryBucket.empty, eq_comm]
  stored := by simp

theorem Effect.of_deleteBucket
    (hEmpty : ∀ key, m.objectAt bucket key = none) :
    Effect now m (.deleteBucket bucket) .done
      { m with buckets := m.buckets.erase bucket } where
  owner := rfl
  closed := (Bool.or_false _).symm
  objects := by
    intro name k
    simp only [objectAt, Dictionary.get?_erase]
    split
    · rename_i hName
      rw [hName]
      exact (hEmpty k).symm
    · rfl
  buckets := by
    intro name
    simp only [aclAt, Dictionary.get?_erase, StoreCall.onBucket]
    by_cases hName : name = bucket
    · simp [hName]
    · simp [hName, Ne.symm hName]
  stored := by simp

theorem Effect.of_setBucketAcl
    {acl : CannedAcl}
    {b : MemoryBucket}
    (hBucket : m.buckets.get? bucket = some b) :
    Effect now m (.setAcl bucket none acl) .done
      (m.setBucket bucket { b with acl }) where
  owner := rfl
  closed := (Bool.or_false _).symm
  objects := by
    intro name k
    rw [objectAt_setBucket]
    split
    · rename_i hName
      rw [hName]
      exact (objectAt_of_get? hBucket k).symm
    · rfl
  buckets := by
    intro name
    rw [aclAt_setBucket]
    by_cases hName : name = bucket
    · simp [StoreCall.onBucket, hName, aclAt_of_get? hBucket]
    · simp [StoreCall.onBucket, hName, Ne.symm hName]
  stored := by simp

theorem Effect.of_setObjectAcl
    {acl : CannedAcl}
    {b : MemoryBucket}
    {o : StoredObject}
    (hBucket : m.buckets.get? bucket = some b)
    (hObject : m.objectAt bucket key = some o) :
    Effect now m (.setAcl bucket (some key) acl) .done
      (m.setObject bucket b key { o with acl }) where
  owner := rfl
  closed := (Bool.or_false _).symm
  objects := by
    intro name k
    rw [objectAt_setObject hBucket]
    simp only [StoreCall.onObject]
    split
    · rename_i hSame
      rw [← hSame.1, ← hSame.2, hObject]
      rfl
    · rfl
  buckets := aclAt_setObject hBucket key _
  stored := by simp

theorem Effect.of_close : Effect now m .close .done m.close where
  owner := rfl
  closed := (Bool.or_true _).symm
  objects := fun _ _ => rfl
  buckets := fun _ => rfl
  stored := by simp

/-
  What can come of a call: it is refused and changes nothing,
  or it has its effect.
-/
def Outcome
    (now : Moment)
    (m : MemoryStore)
    (call : StoreCall)
    (r : Except Error StoreAnswer × MemoryStore) : Prop :=
  (∃ e, r = (.error e, m)) ∨
    ∃ answer m', r = (.ok answer, m') ∧ Effect now m call answer m'

/- A change is refused, or has the effect of its result. -/
theorem Outcome.of_writing
    {α : Type}
    {call : StoreCall}
    {g : MemoryStore → Except Error (α × MemoryStore)}
    {f : α → StoreAnswer}
    (h : ∀ a m', g m = .ok (a, m') → Effect now m call (f a) m') :
    Outcome now m call
      (StoreCall.answering f (Slot.whole.writing g) m) := by
  unfold StoreCall.answering Slot.writing Slot.whole
  dsimp only [id]
  cases hResult : g m with
  | error e => exact Or.inl ⟨e, rfl⟩
  | ok r => exact Or.inr ⟨f r.1, r.2, rfl, h r.1 r.2 hResult⟩

/- A look is refused, or is answered. -/
theorem Outcome.of_reading
    {α : Type}
    {call : StoreCall}
    (h : call.looks = true)
    (g : MemoryStore → Except Error α)
    (f : α → StoreAnswer) :
    Outcome now m call
      (StoreCall.answering f (Slot.whole.reading g) m) := by
  unfold StoreCall.answering Slot.reading Slot.whole
  dsimp only [id]
  cases g m with
  | error e => exact Or.inl ⟨e, rfl⟩
  | ok a => exact Or.inr ⟨f a, m, rfl, Effect.of_looks h (f a)⟩

end MemoryStore

namespace StoreCall

variable {m : MemoryStore}

/- What can come of a call on an open store. -/
theorem run_outcome_of_open
    (hOpen : m.closed = false)
    (now : Moment)
    (config : BackendConfig)
    (call : StoreCall) :
    MemoryStore.Outcome now m call
      (call.run (MemoryStore.alone now config) m) := by
  cases call with
  | put bucket key body size contentType =>
      refine MemoryStore.Outcome.of_writing ?_
      intro info m' h
      rcases (MemoryStore.put_eq_ok_iff hOpen).mp h with
        ⟨b, hBucket, hWhole, _, rfl, rfl⟩
      exact MemoryStore.Effect.of_put hBucket hWhole
  | delete bucket key =>
      refine MemoryStore.Outcome.of_writing ?_
      intro _ m' h
      rcases (MemoryStore.delete_eq_ok_iff hOpen).mp h with
        ⟨b, hBucket, rfl⟩
      exact MemoryStore.Effect.of_delete hBucket
  | createBucket bucket =>
      refine MemoryStore.Outcome.of_writing ?_
      intro _ m' h
      rcases (MemoryStore.createBucket_eq_ok_iff hOpen).mp h with
        ⟨hFree, rfl⟩
      exact MemoryStore.Effect.of_createBucket hFree
  | deleteBucket bucket =>
      refine MemoryStore.Outcome.of_writing ?_
      intro _ m' h
      rcases (MemoryStore.deleteBucket_eq_ok_iff hOpen).mp h with
        ⟨_, hEmpty, rfl⟩
      exact MemoryStore.Effect.of_deleteBucket hEmpty
  | setAcl bucket key acl =>
      refine MemoryStore.Outcome.of_writing ?_
      intro _ m' h
      cases key with
      | none =>
          rcases (MemoryStore.setAcl_none_eq_ok_iff hOpen).mp h with
            ⟨b, hBucket, rfl⟩
          exact MemoryStore.Effect.of_setBucketAcl hBucket
      | some key =>
          rcases (MemoryStore.setAcl_some_eq_ok_iff hOpen).mp h with
            ⟨b, o, hBucket, hObject, rfl⟩
          exact MemoryStore.Effect.of_setObjectAcl hBucket hObject
  | close =>
      exact
        Or.inr
          ⟨.done, m.close, rfl, MemoryStore.Effect.of_close⟩
  | get => exact MemoryStore.Outcome.of_reading rfl _ _
  | list => exact MemoryStore.Outcome.of_reading rfl _ _
  | hasObject => exact MemoryStore.Outcome.of_reading rfl _ _
  | hasBucket => exact MemoryStore.Outcome.of_reading rfl _ _
  | getAcl => exact MemoryStore.Outcome.of_reading rfl _ _
  | link => exact MemoryStore.Outcome.of_reading rfl _ _

/- A failed check is the answer, and nothing is changed. -/
theorem answering_of_error
    {α : Type}
    {f : α → StoreAnswer}
    {act : Action MemoryStore α}
    {e : Error}
    (h : act m = (.error e, m)) :
    answering f act m = (.error e, m) := by
  unfold answering
  rw [h]
  rfl

/- A closed store refuses every call but to close it. -/
theorem run_of_closed
    (hClosed : m.closed = true)
    {call : StoreCall}
    (hCall : call.closes = false)
    (now : Moment)
    (config : BackendConfig) :
    call.run (MemoryStore.alone now config) m =
      (.error (MemoryStore.closedError m.owner), m) := by
  -- every call begins with the same check
  have hRefused := MemoryStore.ensureOpen_of_closed hClosed
  have hWriting :
      ∀ {α : Type}
        (g : Unit → Except Error (α × MemoryStore)),
        Slot.whole.writing (fun m => m.ensureOpen >>= g) m =
          (.error (MemoryStore.closedError m.owner), m) := by
    intro α g
    simp only [Slot.writing, Slot.whole, id, hRefused]
    rfl
  have hReading :
      ∀ {α : Type} (g : Unit → Except Error α),
        Slot.whole.reading (fun m => m.ensureOpen >>= g) m =
          (.error (MemoryStore.closedError m.owner), m) := by
    intro α g
    simp only [Slot.reading, Slot.whole, id, hRefused]
    rfl
  cases call with
  | close => cases hCall
  | put => exact answering_of_error (hWriting _)
  | delete => exact answering_of_error (hWriting _)
  | createBucket => exact answering_of_error (hWriting _)
  | deleteBucket => exact answering_of_error (hWriting _)
  | setAcl => exact answering_of_error (hWriting _)
  | get => exact answering_of_error (hReading _)
  | list => exact answering_of_error (hReading _)
  | hasObject => exact answering_of_error (hReading _)
  | hasBucket => exact answering_of_error (hReading _)
  | getAcl => exact answering_of_error (hReading _)
  | link => exact answering_of_error (hReading _)

/- What can come of a call. -/
theorem run_outcome
    (m : MemoryStore)
    (now : Moment)
    (config : BackendConfig)
    (call : StoreCall) :
    MemoryStore.Outcome now m call
      (call.run (MemoryStore.alone now config) m) := by
  cases hClosed : m.closed with
  | false => exact run_outcome_of_open hClosed now config call
  | true =>
      cases call with
      | close =>
          exact
            Or.inr
              ⟨.done, m.close, rfl, MemoryStore.Effect.of_close⟩
      | _ => exact Or.inl ⟨_, run_of_closed hClosed rfl now config⟩

end StoreCall

end StorageRouting

------------------------------------------------------------
-- Answers
------------------------------------------------------------

namespace StorageRouting

namespace MemoryStore

variable {m : MemoryStore} {now : Moment}
variable {bucket key : String}

/- A bucket that is not there is not found. -/
theorem bucket_of_aclAt
    (h : m.aclAt bucket = none) :
    m.bucket bucket = .error (missingBucket bucket) := by
  unfold MemoryStore.bucket
  rw [Option.map_eq_none_iff.mp h]

/- An object that is not there is not found. -/
theorem object_of_objectAt
    (h : m.objectAt bucket key = none) :
    ∃ text, m.object bucket key = .error (.notFound text) := by
  unfold object
  cases hBucket : m.buckets.get? bucket with
  | none =>
      rw [bucket_of_aclAt (Option.map_eq_none_iff.mpr hBucket)]
      exact ⟨_, rfl⟩
  | some b =>
      rw [bucket_eq_ok_iff.mpr hBucket]
      rw [objectAt_of_get? hBucket] at h
      simp only [bind, Except.bind, h]
      exact ⟨_, rfl⟩

theorem get_eq_ok_iff
    (hOpen : m.closed = false)
    {body : Body} :
    m.get bucket key = .ok body ↔
      ∃ o,
        m.objectAt bucket key = some o ∧
        Body.ofBytes o.data = body := by
  simp only [get, bind_eq_ok_iff, ensureOpen_of_open hOpen,
    object_eq_ok_iff]
  simp [pure, Except.pure]

/- An object that is not there is not found. -/
theorem get_of_objectAt
    (hOpen : m.closed = false)
    (h : m.objectAt bucket key = none) :
    ∃ text, m.get bucket key = .error (.notFound text) := by
  rcases object_of_objectAt h with ⟨text, hMissing⟩
  refine ⟨text, ?_⟩
  simp only [get, ensureOpen_of_open hOpen, hMissing]
  rfl

theorem hasObject_eq
    (hOpen : m.closed = false) :
    m.hasObject bucket key =
      .ok (m.objectAt bucket key).isSome := by
  simp only [hasObject, ensureOpen_of_open hOpen, objectAt]
  cases m.buckets.get? bucket <;> rfl

theorem hasBucket_eq
    (hOpen : m.closed = false) :
    m.hasBucket bucket = .ok (m.aclAt bucket).isSome := by
  simp only [hasBucket, ensureOpen_of_open hOpen, aclAt_isSome]
  rfl

theorem list_eq_ok_iff
    (hOpen : m.closed = false)
    {options : ListOptions}
    {page : ListPage} :
    m.list bucket options = .ok page ↔
      ∃ b,
        m.buckets.get? bucket = some b ∧
        cutPage options
            (listing b (options.keyStart.getD "")
              options.recursive) =
          page := by
  simp only [list, bind_eq_ok_iff, ensureOpen_of_open hOpen,
    bucket_eq_ok_iff]
  simp [pure, Except.pure]

theorem getAcl_none_eq_ok_iff
    (hOpen : m.closed = false)
    {policy : AccessPolicy} :
    m.getAcl bucket none = .ok policy ↔
      ∃ acl,
        m.aclAt bucket = some acl ∧
        ⟨some m.owner, acl.grants m.owner⟩ = policy := by
  simp only [getAcl, bind_eq_ok_iff, ensureOpen_of_open hOpen,
    bucket_eq_ok_iff]
  cases hBucket : m.buckets.get? bucket <;>
    simp [pure, Except.pure, aclAt, hBucket]

theorem getAcl_some_eq_ok_iff
    (hOpen : m.closed = false)
    {policy : AccessPolicy} :
    m.getAcl bucket (some key) = .ok policy ↔
      ∃ o,
        m.objectAt bucket key = some o ∧
        ⟨some m.owner, o.acl.grants m.owner⟩ = policy := by
  simp only [getAcl, bind_eq_ok_iff, ensureOpen_of_open hOpen,
    bucket_eq_ok_iff]
  cases hObject : m.objectAt bucket key with
  | none =>
      rcases object_of_objectAt hObject with ⟨text, hMissing⟩
      simp [hMissing, Except.map]
  | some o =>
      rcases Option.bind_eq_some_iff.mp hObject with
        ⟨b, hBucket, _⟩
      simp [hBucket, object_eq_ok_iff.mpr hObject, Except.map,
        pure, Except.pure]

theorem setAcl_some_succeeds_iff
    (hOpen : m.closed = false)
    {acl : CannedAcl} :
    (∃ u m', m.setAcl bucket (some key) acl = .ok (u, m')) ↔
      (m.objectAt bucket key).isSome = true := by
  simp only [setAcl_some_eq_ok_iff hOpen,
    Option.isSome_iff_exists]
  constructor
  · rintro ⟨_, _, b, o, _, hObject, _⟩
    exact ⟨o, hObject⟩
  · rintro ⟨o, hObject⟩
    rcases Option.bind_eq_some_iff.mp hObject with
      ⟨b, hBucket, _⟩
    exact ⟨(), _, b, o, hBucket, hObject, rfl⟩

theorem link_succeeds_iff
    (hOpen : m.closed = false)
    {method : LinkMethod}
    {ttl : Nat} :
    (∃ text, m.link now bucket key method ttl = .ok text) ↔
      (now.after? ttl).isSome = true := by
  simp only [link, bind_eq_ok_iff, ensureOpen_of_open hOpen,
    Moment.after?]
  cases Moment.ofNanos? (now.nanos + ttl * Moment.second) <;>
    simp [pure, Except.pure]

end MemoryStore

namespace StoreCall

variable {m : MemoryStore}

/- A look is answered with what the store finds. -/
theorem run_get
    (now : Moment)
    (config : BackendConfig)
    (bucket key : String) :
    (StoreCall.get bucket key).run
        (MemoryStore.alone now config) m =
      ((m.get bucket key).map .body, m) :=
  rfl

theorem run_list
    (now : Moment)
    (config : BackendConfig)
    (bucket : String)
    (options : ListOptions) :
    (StoreCall.list bucket options).run
        (MemoryStore.alone now config) m =
      ((m.list bucket options).map .page, m) :=
  rfl

theorem run_getAcl
    (now : Moment)
    (config : BackendConfig)
    (bucket : String)
    (key : Option String) :
    (StoreCall.getAcl bucket key).run
        (MemoryStore.alone now config) m =
      ((m.getAcl bucket key).map .policy, m) :=
  rfl

theorem run_hasObject
    (now : Moment)
    (config : BackendConfig)
    (bucket key : String) :
    (StoreCall.hasObject bucket key).run
        (MemoryStore.alone now config) m =
      ((m.hasObject bucket key).map .flag, m) :=
  rfl

theorem run_hasBucket
    (now : Moment)
    (config : BackendConfig)
    (bucket : String) :
    (StoreCall.hasBucket bucket).run
        (MemoryStore.alone now config) m =
      ((m.hasBucket bucket).map .flag, m) :=
  rfl

/- A call succeeds if what it stands for does. -/
theorem answering_succeeds_iff
    {σ α : Type}
    {f : α → StoreAnswer}
    {act : Action σ α}
    {s : σ} :
    (∃ answer, (answering f act s).1 = .ok answer) ↔
      ∃ a, (act s).1 = .ok a := by
  unfold answering
  cases (act s).1 <;> simp [Except.map]

/- A change succeeds if there is a result to be put back. -/
theorem writing_succeeds_iff
    {σ α : Type}
    {slot : Slot σ MemoryStore}
    {s : σ}
    {g : MemoryStore → Except Error (α × MemoryStore)} :
    (∃ a, (slot.writing g s).1 = .ok a) ↔
      ∃ a m', g (slot.get s) = .ok (a, m') := by
  simp only [Slot.writing]
  rcases g (slot.get s) with e | ⟨a, m'⟩ <;> simp

/- There is a result whenever there is something to make it of. -/
theorem exists_result_iff
    {α β : Type}
    {p : β → Prop}
    {f : β → α} : (∃ a b, p b ∧ f b = a) ↔ ∃ b, p b := by
  rw [exists_comm]
  simp

/- When a call on an open store succeeds. -/
theorem run_succeeds_iff
    (hOpen : m.closed = false)
    (now : Moment)
    (config : BackendConfig)
    (call : StoreCall) :
    (∃ answer,
        (call.run (MemoryStore.alone now config) m).1 =
          .ok answer) ↔
      call.Admissible (fun bucket => (m.aclAt bucket).isSome)
        (fun bucket key => (m.objectAt bucket key).isSome)
        now := by
  have hStands :
      ∀ bucket,
        (m.aclAt bucket).isSome = true ↔
          ∃ b, m.buckets.get? bucket = some b := by
    intro bucket
    simp [MemoryStore.aclAt, Option.isSome_iff_exists]
  cases call with
  | put bucket key body size contentType =>
      refine answering_succeeds_iff.trans
        (writing_succeeds_iff.trans ?_)
      simp only [Slot.whole_get, MemoryStore.put_eq_ok_iff hOpen,
        Admissible, hStands]
      constructor
      · rintro ⟨_, _, b, hBucket, hWhole, hSize, _, _⟩
        exact ⟨⟨b, hBucket⟩, hWhole, hSize⟩
      · rintro ⟨⟨b, hBucket⟩, hWhole, hSize⟩
        exact ⟨_, _, b, hBucket, hWhole, hSize, rfl, rfl⟩
  | delete bucket key =>
      refine answering_succeeds_iff.trans
        (writing_succeeds_iff.trans ?_)
      simp [MemoryStore.delete_eq_ok_iff hOpen, exists_result_iff,
        Admissible, hStands]
  | createBucket bucket =>
      refine answering_succeeds_iff.trans
        (writing_succeeds_iff.trans ?_)
      simp [MemoryStore.createBucket_eq_ok_iff hOpen, Admissible]
  | deleteBucket bucket =>
      refine answering_succeeds_iff.trans
        (writing_succeeds_iff.trans ?_)
      simp [MemoryStore.deleteBucket_eq_ok_iff hOpen, Admissible]
  | setAcl bucket key acl =>
      refine answering_succeeds_iff.trans
        (writing_succeeds_iff.trans ?_)
      cases key with
      | none =>
          simp [MemoryStore.setAcl_none_eq_ok_iff hOpen,
            exists_result_iff, Admissible, hStands]
      | some key =>
          exact MemoryStore.setAcl_some_succeeds_iff hOpen
  | get bucket key =>
      refine answering_succeeds_iff.trans ?_
      change (∃ body, m.get bucket key = .ok body) ↔ _
      simp [MemoryStore.get_eq_ok_iff hOpen, exists_result_iff,
        Admissible, Option.isSome_iff_exists]
  | list bucket options =>
      refine answering_succeeds_iff.trans ?_
      change (∃ page, m.list bucket options = .ok page) ↔ _
      simp [MemoryStore.list_eq_ok_iff hOpen, exists_result_iff,
        Admissible, hStands]
  | hasObject bucket key =>
      refine answering_succeeds_iff.trans ?_
      change (∃ b, m.hasObject bucket key = .ok b) ↔ _
      simp [MemoryStore.hasObject_eq hOpen, Admissible]
  | hasBucket bucket =>
      refine answering_succeeds_iff.trans ?_
      change (∃ b, m.hasBucket bucket = .ok b) ↔ _
      simp [MemoryStore.hasBucket_eq hOpen, Admissible]
  | getAcl bucket key =>
      refine answering_succeeds_iff.trans ?_
      change (∃ policy, m.getAcl bucket key = .ok policy) ↔ _
      cases key with
      | none =>
          simp [MemoryStore.getAcl_none_eq_ok_iff hOpen,
            exists_result_iff, Admissible,
            Option.isSome_iff_exists]
      | some key =>
          simp [MemoryStore.getAcl_some_eq_ok_iff hOpen,
            exists_result_iff, Admissible,
            Option.isSome_iff_exists]
  | link bucket key method ttl =>
      refine answering_succeeds_iff.trans ?_
      exact MemoryStore.link_succeeds_iff hOpen
  | close => exact iff_of_true ⟨.done, rfl⟩ trivial

end StoreCall

end StorageRouting
