import StorageRouting.Backend.Client
import StorageRouting.Backend.MemoryAdapter
import StorageRouting.Scenario.Fleet

/-
  What a call of the storage client does to the state behind
  its backends: what the same call does on the backend that it
  is routed to, with its names mapped; and on a store in
  memory, what it does to that store alone.

  Key definitions include:
    * `ClientCall`
    * `ClientCall.run`
    * `ClientCall.onAdapter`
    * `ClientCall.mapKeys`
    * `Slot.whole`
    * `Slot.Restores`
    * `MemoryStore.alone`

  Main statements:
    * `ClientCall.run_of_error`
    * `ClientCall.run_of_ok`
    * `ClientCall.onAdapter_memory`
-/

------------------------------------------------------------
-- Calls of the Client
------------------------------------------------------------

namespace StorageRouting

/- A call of the storage client, but for the bucket. -/
inductive ClientCall where
| uploadStream
    (key : String)
    (body : Body)
    (size : Option Nat)
    (contentType : Option String) : ClientCall
| upload
    (key : String)
    (data : Bytes)
    (contentType : Option String) : ClientCall
| openObject (key : String) : ClientCall
| download (key : String) : ClientCall
| remove (key : String) : ClientCall
| hasObject (key : String) : ClientCall
| stat (key : String) : ClientCall
| list (options : ListOptions) : ClientCall
| listAll (options : ListOptions) : ClientCall
| hasBucket : ClientCall
| createBucket : ClientCall
| deleteBucket : ClientCall
| setAcl (key : Option String) (acl : CannedAcl) : ClientCall
| getAcl (key : Option String) : ClientCall
| link (key : String) (method : LinkMethod) (ttl : Nat) : ClientCall

namespace ClientCall

variable {σ : Type}

/- The state after a call of a client. -/
def run
    (c : StorageClient)
    (r : StorageClient.Route σ)
    (bucket : Option String)
    (s : σ) :
    ClientCall → σ
| .uploadStream key body size type =>
    (c.uploadStream r bucket key body size type s).2
| .upload key data type => (c.upload r bucket key data type s).2
| .openObject key => (c.openObject r bucket key s).2
| .download key => (c.download r bucket key s).2
| .remove key => (c.remove r bucket key s).2
| .hasObject key => (c.hasObject r bucket key s).2
| .stat key => (c.stat r bucket key s).2
| .list options => (c.list r bucket options s).2
| .listAll options => (c.listAll r bucket options s).2
| .hasBucket => (c.hasBucket r bucket s).2
| .createBucket => (c.createBucket r bucket s).2
| .deleteBucket => (c.deleteBucket r bucket s).2
| .setAcl key acl => (c.setAcl r bucket key acl s).2
| .getAcl key => (c.getAcl r bucket key s).2
| .link key method ttl => (c.link r bucket key method ttl s).2

/-
  The state after a call that is made on an adapter, with the
  bucket and the keys as the adapter has them.
-/
def onAdapter
    (a : Adapter σ)
    (bucket : String)
    (s : σ) :
    ClientCall → σ
| .uploadStream key body size type =>
    (a.put bucket key body size type s).2
| .upload key data type =>
    (a.put bucket key (Body.ofBytes data) (some data.size) type s).2
| .openObject key => (a.get bucket key s).2
| .download key => (a.get bucket key s).2
| .remove key => (a.delete bucket key s).2
| .hasObject key => (a.hasObject bucket key s).2
| .stat key =>
    (ListWalk.find a.toObjectStore bucket
      (fun info => info.key == key)
      (some (StorageClient.exactKey key)) s).2
| .list options => (a.list bucket options s).2
| .listAll options =>
    (ListWalk.drain a.toObjectStore bucket (some options) s).2
| .hasBucket => (a.hasBucket bucket s).2
| .createBucket => (a.createBucket bucket s).2
| .deleteBucket => (a.deleteBucket bucket s).2
| .setAcl key acl => (a.setAcl bucket key acl s).2
| .getAcl key => (a.getAcl bucket key s).2
| .link key method ttl => (a.link bucket key method ttl s).2

/- Map the key of a call, if it has one. -/
def mapKeys
    (f : String → String) :
    ClientCall → ClientCall
| .uploadStream key body size type =>
    .uploadStream (f key) body size type
| .upload key data type => .upload (f key) data type
| .openObject key => .openObject (f key)
| .download key => .download (f key)
| .remove key => .remove (f key)
| .hasObject key => .hasObject (f key)
| .stat key => .stat (f key)
| .list options => .list options
| .listAll options => .listAll options
| .hasBucket => .hasBucket
| .createBucket => .createBucket
| .deleteBucket => .deleteBucket
| .setAcl key acl => .setAcl (key.map f) acl
| .getAcl key => .getAcl (key.map f)
| .link key method ttl => .link (f key) method ttl

/- Without a target nothing happens. -/
theorem withTarget_of_error
    {α : Type}
    {c : StorageClient}
    {r : StorageClient.Route σ}
    {bucket : Option String}
    {e : Error}
    (h : c.target r bucket = .error e)
    (f : Adapter σ → String → Action σ α)
    (s : σ) : c.withTarget r bucket f s = (.error e, s) := by
  simp only [StorageClient.withTarget, h]

/- With a target the operation is carried out on it. -/
theorem withTarget_of_ok
    {α : Type}
    {c : StorageClient}
    {r : StorageClient.Route σ}
    {bucket : Option String}
    {a : Adapter σ}
    {b : String}
    (h : c.target r bucket = .ok (a, b))
    (f : Adapter σ → String → Action σ α)
    (s : σ) : c.withTarget r bucket f s = f a b s := by
  simp only [StorageClient.withTarget, h]

/- A call without a target changes nothing. -/
theorem run_of_error
    {c : StorageClient}
    {r : StorageClient.Route σ}
    {bucket : Option String}
    {e : Error}
    (h : c.target r bucket = .error e)
    (call : ClientCall)
    (s : σ) : call.run c r bucket s = s := by
  cases call with
  | download key =>
      simp only [run, StorageClient.download,
        StorageClient.openObject, withTarget_of_error h]
  | _ => exact congrArg Prod.snd (withTarget_of_error h _ s)

/-
  A call with a target is made on it, with its key mapped as
  for the target.
-/
theorem run_of_ok
    {c : StorageClient}
    {r : StorageClient.Route σ}
    {bucket : Option String}
    {a : Adapter σ}
    {b : String}
    (h : c.target r bucket = .ok (a, b))
    (call : ClientCall)
    (s : σ) :
    call.run c r bucket s =
      (call.mapKeys (c.keyMapper a.config)).onAdapter a b s := by
  cases call with
  | download key =>
      simp only [run, StorageClient.download,
        StorageClient.openObject, withTarget_of_ok h]
      simp only [mapKeys, onAdapter, StorageClient.keyOn]
      split <;> simp_all
  | stat key =>
      simp only [run, StorageClient.stat, withTarget_of_ok h]
      simp only [mapKeys, onAdapter, StorageClient.keyOn]
      split <;> simp_all
  | createBucket =>
      simp only [run, StorageClient.createBucket,
        withTarget_of_ok h]
      simp only [mapKeys, onAdapter]
      split <;> simp_all
  | deleteBucket =>
      simp only [run, StorageClient.deleteBucket,
        withTarget_of_ok h]
      simp only [mapKeys, onAdapter]
      split <;> simp_all
  | _ => exact congrArg Prod.snd (withTarget_of_ok h _ s)

end ClientCall

end StorageRouting

------------------------------------------------------------
-- Slots
------------------------------------------------------------

namespace StorageRouting

namespace Slot

variable {σ τ α : Type}

/- The whole state. -/
def whole : Slot σ σ :=
  ⟨id, fun t _ => t⟩

@[simp] theorem whole_get (t : τ) : whole.get t = t :=
  rfl

/- To put back what is in a slot changes nothing. -/
def Restores (slot : Slot σ τ) : Prop :=
  ∀ s, slot.set (slot.get s) s = s

/-
  A change through a slot puts there what the same change makes
  of its content alone.
-/
theorem writing_snd
    {slot : Slot σ τ}
    (h : slot.Restores)
    (f : τ → Except Error (α × τ))
    (s : σ) :
    (slot.writing f s).2 =
      slot.set (whole.writing f (slot.get s)).2 s := by
  simp only [writing, whole, id]
  cases f (slot.get s) with
  | ok r => rfl
  | error e => exact (h s).symm

end Slot

namespace Fleet

/- A store that is put back where it was changes nothing. -/
theorem storeSlot_restores (i : Nat) :
    (storeSlot i).Restores := by
  intro f
  simp only [storeSlot]
  have hSame :
      f.stores.set i
          ((f.stores[i]?).getD (MemoryStore.empty "")) =
        f.stores := by
    by_cases hPlace : i < f.stores.length
    · simp [List.getElem?_eq_getElem hPlace]
    · exact List.set_eq_of_length_le (Nat.le_of_not_lt hPlace)
  rw [hSame]

end Fleet

end StorageRouting

------------------------------------------------------------
-- Walks That Change Nothing
------------------------------------------------------------

namespace StorageRouting

namespace ListWalk

variable {σ : Type}
variable {store : ObjectStore σ} {bucket : String} {s : σ}

/- One page of a listing that changes nothing. -/
theorem step_snd
    (h : ∀ options, (store.list bucket options s).2 = s)
    (walk : ListWalk) : (step store bucket walk s).2.2 = s := by
  cases walk with
  | none => rfl
  | some options =>
      have hPage := h options
      unfold step
      dsimp only
      rcases hList : store.list bucket options s with ⟨page, s'⟩
      rw [hList] at hPage
      cases page with
      | error e => exact hPage
      | ok page =>
          dsimp only
          cases following bucket options page <;> exact hPage

/- All pages of a listing that changes nothing. -/
theorem drain_snd
    (h : ∀ options, (store.list bucket options s).2 = s)
    (walk : ListWalk) : (drain store bucket walk s).2 = s := by
  have hEnds :
      ∀ r, drain? store bucket walk s = some r → r.2 = s := by
    intro r hEnd
    refine
      drain?.partial_correctness store bucket
        (fun _ before r => before = s → r.2 = s) ?_ walk s r hEnd
        rfl
    intro rest ih walk before r hEq hSame
    subst hSame
    have hPage := step_snd h walk
    rcases hStep : step store bucket walk before with
      ⟨page, walk', s'⟩
    rw [hStep] at hPage hEq
    dsimp only at hPage
    subst hPage
    cases page with
    | none =>
        cases hEq
        rfl
    | some page =>
        rcases Option.bind_eq_some_iff.mp hEq with
          ⟨r', hRest, hLast⟩
        cases hLast
        exact ih walk' _ r' hRest rfl
  unfold drain
  cases hDrain : drain? store bucket walk s with
  | none => rfl
  | some r => exact hEnds r hDrain

/- A search of a listing that changes nothing. -/
theorem find_snd
    (h : ∀ options, (store.list bucket options s).2 = s)
    (p : ObjectInfo → Bool)
    (walk : ListWalk) :
    (find store bucket p walk s).2 = s := by
  have hEnds :
      ∀ r, find? store bucket p walk s = some r → r.2 = s := by
    intro r hEnd
    refine
      find?.partial_correctness store bucket p
        (fun _ before r => before = s → r.2 = s) ?_ walk s r hEnd
        rfl
    intro rest ih walk before r hEq hSame
    subst hSame
    have hPage := step_snd h walk
    rcases hStep : step store bucket walk before with
      ⟨page, walk', s'⟩
    rw [hStep] at hPage hEq
    dsimp only at hPage
    subst hPage
    cases page with
    | none =>
        cases hEq
        rfl
    | some page =>
        cases page with
        | error e =>
            cases hEq
            rfl
        | ok page =>
            dsimp only at hEq
            cases hFound : page.items.find? p with
            | some info =>
                rw [hFound] at hEq
                cases hEq
                rfl
            | none =>
                rw [hFound] at hEq
                exact ih walk' _ r hEq rfl
  unfold find
  cases hFind : find? store bucket p walk s with
  | none => rfl
  | some r => exact hEnds r hFind

end ListWalk

end StorageRouting

------------------------------------------------------------
-- Stores in Memory
------------------------------------------------------------

namespace StorageRouting

/- The adapter to the store of a number. -/
def Fleet.memoryAt
    (i : Nat)
    (config : BackendConfig) : Adapter Fleet :=
  MemoryStore.adapter (Fleet.storeSlot i) (·.now) config

/- The adapter to a store alone, at a moment. -/
def MemoryStore.alone
    (now : Moment)
    (config : BackendConfig) : Adapter MemoryStore :=
  MemoryStore.adapter Slot.whole (fun _ => now) config

/-
  A call on a store in memory does to the store what it does to
  the store alone, and to the rest of the state nothing.
-/
theorem ClientCall.onAdapter_memory
    {σ : Type}
    {slot : Slot σ MemoryStore}
    (h : slot.Restores)
    (now : σ → Moment)
    (config : BackendConfig)
    (bucket : String)
    (s : σ)
    (call : ClientCall) :
    call.onAdapter (MemoryStore.adapter slot now config) bucket
        s =
      slot.set
        (call.onAdapter (MemoryStore.alone (now s) config) bucket
          (slot.get s)) s := by
  have hReads :
      ∀ s options,
        ((MemoryStore.adapter slot now config).list bucket
          options s).2 = s := fun _ _ => rfl
  have hReadsAlone :
      ∀ m options,
        ((MemoryStore.alone (now s) config).list bucket
          options m).2 = m := fun _ _ => rfl
  cases call with
  | uploadStream key body size type => exact Slot.writing_snd h _ s
  | upload key data type => exact Slot.writing_snd h _ s
  | remove key => exact Slot.writing_snd h _ s
  | createBucket => exact Slot.writing_snd h _ s
  | deleteBucket => exact Slot.writing_snd h _ s
  | setAcl key acl => exact Slot.writing_snd h _ s
  | stat key =>
      have hWalk := ListWalk.find_snd (hReads s)
      have hAlone := ListWalk.find_snd (hReadsAlone (slot.get s))
      simp only [onAdapter, hWalk, hAlone]
      exact (h s).symm
  | listAll options =>
      have hWalk := ListWalk.drain_snd (hReads s)
      have hAlone := ListWalk.drain_snd (hReadsAlone (slot.get s))
      simp only [onAdapter, hWalk, hAlone]
      exact (h s).symm
  | _ => exact (h s).symm

end StorageRouting
