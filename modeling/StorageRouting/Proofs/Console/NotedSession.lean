import StorageRouting.Console.Session
import StorageRouting.Proofs.Backend.StoreCall

/-
  Sessions in which every call of a backend is noted.  Noting
  changes neither where a route leads nor what is answered, so
  what a command asks of the backends can be read off its notes.

  Key definitions include:
    * `BackendCall`
    * `Adapter.noting`
    * `Registry.noting`
    * `Session.noting`
    * `World.noted`

  Main statements:
    * `Adapter.run_noting`
    * `Registry.resolve_noting`
    * `Session.placeOf_eq_ok_iff`
    * `Session.adapter_noting`
-/

------------------------------------------------------------
-- Noted Calls
------------------------------------------------------------

namespace StorageRouting

/-
  A call of the backend that a registry has under a name, with
  its answer, or a probe of that backend.
-/
inductive BackendCall where
| call
    (backend : String)
    (call : StoreCall)
    (answer : Except Error StoreAnswer) : BackendCall
| probe (backend : String) : BackendCall

variable {σ α : Type}

namespace BackendCall

/- Carry an action out, and note the call that it is. -/
def recording
    (backend : String)
    (c : StoreCall)
    (f : α → StoreAnswer)
    (a : Action σ α) : Action (σ × List BackendCall) α :=
  fun x =>
    let (answer, s) := a x.1
    (answer, s, x.2 ++ [.call backend c (answer.map f)])

end BackendCall

open BackendCall in
/- An adapter whose calls are noted under a name. -/
def Adapter.noting
    (a : Adapter σ)
    (name : String) : Adapter (σ × List BackendCall) where
  put b k body size type :=
    recording name (.put b k body size type) .stored
      (a.put b k body size type)
  get b k := recording name (.get b k) .body (a.get b k)
  delete b k :=
    recording name (.delete b k) (fun _ => .done) (a.delete b k)
  list b options :=
    recording name (.list b options) .page (a.list b options)
  hasObject b k :=
    recording name (.hasObject b k) .flag (a.hasObject b k)
  hasBucket b := recording name (.hasBucket b) .flag (a.hasBucket b)
  createBucket b :=
    recording name (.createBucket b) (fun _ => .done)
      (a.createBucket b)
  deleteBucket b :=
    recording name (.deleteBucket b) (fun _ => .done)
      (a.deleteBucket b)
  setAcl b k acl :=
    recording name (.setAcl b k acl) (fun _ => .done)
      (a.setAcl b k acl)
  getAcl b k := recording name (.getAcl b k) .policy (a.getAcl b k)
  link b k method ttl :=
    recording name (.link b k method ttl) .text (a.link b k method ttl)
  config := a.config
  close := recording name .close (fun _ => .done) a.close
  probe := fun x =>
    let (answer, s) := a.probe x.1
    (answer, s, x.2 ++ [.probe name])

/- Every call of a store is noted with its answer. -/
theorem Adapter.run_noting
    (a : Adapter σ)
    (name : String)
    (c : StoreCall)
    (s : σ)
    (log : List BackendCall) :
    c.run (a.noting name) (s, log) =
      ((c.run a s).1, (c.run a s).2,
        log ++ [.call name c (c.run a s).1]) := by
  cases c <;> rfl

namespace Registry

/- A registry in which the calls of every backend are noted. -/
def noting
    (r : Registry (Adapter σ)) :
    Registry (Adapter (σ × List BackendCall)) :=
  { r with
    adapters := r.adapters.mapEntries (fun name a => a.noting name) }

theorem get?_noting
    (r : Registry (Adapter σ))
    (name : String) :
    r.noting.get? name =
      (r.get? name).map (fun a => a.noting name) :=
  Dictionary.get?_mapEntries _ _ name

theorem primaryAdapter_noting
    (r : Registry (Adapter σ)) :
    (∃ e,
      r.primaryAdapter = .error e ∧
      r.noting.primaryAdapter = .error e) ∨
    ∃ name a,
      r.primaryAdapter = .ok a ∧
      r.get? name = some a ∧
      r.noting.primaryAdapter = .ok (a.noting name) := by
  have hPrimary : r.noting.primary = r.primary := rfl
  simp only [primaryAdapter, hPrimary, get?_noting]
  cases hFound : r.get? r.primary with
  | none => exact .inl ⟨_, rfl, rfl⟩
  | some a => exact .inr ⟨r.primary, a, rfl, hFound, rfl⟩

/-
  A key leads to the same backend when its calls are noted; they
  are noted under a name that the backend has in the registry.
-/
theorem resolve_noting
    (r : Registry (Adapter σ))
    (key : String) :
    (∃ e,
      r.resolve key = .error e ∧
      r.noting.resolve key = .error e) ∨
    ∃ name a,
      r.resolve key = .ok a ∧
      r.get? name = some a ∧
      r.noting.resolve key = .ok (a.noting name) := by
  unfold resolve
  split
  · exact r.primaryAdapter_noting
  · rw [get?_noting]
    cases hFound : r.get? key with
    | some a => exact .inr ⟨key, a, rfl, hFound, rfl⟩
    | none =>
        have hStrict : r.noting.strict = r.strict := rfl
        simp only [Option.map_none, hStrict]
        split
        · exact .inl ⟨_, rfl, rfl⟩
        · exact r.primaryAdapter_noting

end Registry

/- A session in which the calls of all backends are noted. -/
def Session.noting
    (session : Session σ) :
    Session (σ × List BackendCall) where
  registry := session.registry.noting
  now := fun x => session.now x.1
  backend := session.backend
  headers := session.headers
  probesHealth := session.probesHealth

/- A world with the calls that were noted so far. -/
def World.noted
    (w : World σ)
    (calls : List BackendCall) :
    World (σ × List BackendCall) where
  backends := (w.backends, calls)
  files := w.files
  screen := w.screen

end StorageRouting

------------------------------------------------------------
-- Places
------------------------------------------------------------

namespace StorageRouting

/- The bucket of an operation stands for itself. -/
theorem BucketMapper.usual_some
    {config : BackendConfig}
    {bucket : Option String}
    {b : String}
    (h : usual config bucket = some b) :
    usual config (some b) = some b := by
  cases hEmpty : b.isEmpty with
  | false => simp [usual, hEmpty]
  | true =>
      cases bucket with
      | none => simpa [usual, hEmpty] using h
      | some b' =>
          cases hEmpty' : b'.isEmpty with
          | true => simpa [usual, hEmpty, hEmpty'] using h
          | false =>
              have hSame : b' = b := by
                simpa [usual, hEmpty'] using h
              rw [hSame, hEmpty] at hEmpty'
              cases hEmpty'

namespace Session

variable {σ : Type} {r : StorageClient.Route σ}

theorem placeOf_of_error
    {e : Error}
    (h : r.adapter = .error e)
    (bucket : Option String) :
    placeOf r bucket = .error e := by
  simp only [placeOf, StorageClient.backendName, h]
  rfl

theorem placeOf_of_ok
    {a : Adapter σ}
    (h : r.adapter = .ok a)
    (bucket : Option String) :
    placeOf r bucket =
      match BucketMapper.usual a.config bucket with
      | some b => .ok ⟨a.name, b⟩
      | none => .error (StorageClient.noBucket a.name) := by
  have hMapper :
      StorageClient.standard.bucketMapper = BucketMapper.usual :=
    rfl
  simp only [placeOf, StorageClient.backendName,
    StorageClient.bucketFor, StorageClient.target, h, hMapper]
  cases BucketMapper.usual a.config bucket <;> rfl

/- A place is a backend with a bucket that the backend uses. -/
theorem placeOf_eq_ok_iff
    {bucket : Option String}
    {place : Place} :
    placeOf r bucket = .ok place ↔
      ∃ a, r.adapter = .ok a ∧
        a.name = place.backend ∧
        BucketMapper.usual a.config bucket = some place.bucket := by
  cases hAdapter : r.adapter with
  | error e => simp [placeOf_of_error hAdapter]
  | ok a =>
      rw [placeOf_of_ok hAdapter]
      cases hBucket : BucketMapper.usual a.config bucket with
      | none => simp [hBucket]
      | some b =>
          rcases place with ⟨name, bucket⟩
          simp [hBucket]

/- There is no place without a backend, and none without a bucket. -/
theorem placeOf_eq_error_iff
    {bucket : Option String}
    {e : Error} :
    placeOf r bucket = .error e ↔
      r.adapter = .error e ∨
      ∃ a, r.adapter = .ok a ∧
        BucketMapper.usual a.config bucket = none ∧
        e = StorageClient.noBucket a.name := by
  cases hAdapter : r.adapter with
  | error e => simp [placeOf_of_error hAdapter]
  | ok a =>
      rw [placeOf_of_ok hAdapter]
      cases hBucket : BucketMapper.usual a.config bucket with
      | none => simp [hBucket, eq_comm]
      | some b => simp [hBucket]

/-
  A call is routed to the same backend, or refused for the same
  reason, when the calls of the backends are noted.
-/
theorem adapter_noting
    (session : Session σ)
    (i : Invocation) :
    (∃ e,
      (session.route i).adapter = .error e ∧
      (session.noting.route i).adapter = .error e) ∨
    ∃ name a,
      (session.route i).adapter = .ok a ∧
      session.registry.get? name = some a ∧
      (session.noting.route i).adapter = .ok (a.noting name) :=
  session.registry.resolve_noting (session.route i).stack.peek

/- The world after the warnings of the call of a command. -/
def warned
    (session : Session σ)
    (w : World σ) : World σ :=
  let entries := Invocation.headerWarnings session.headers
  { w with
    screen :=
      w.screen ++ entries.map (.log (session.now w.backends)) }

theorem backends_warned
    (session : Session σ)
    (w : World σ) : (session.warned w).backends = w.backends :=
  rfl

/- A call warns, whatever comes after it. -/
theorem direct_eq
    (session : Session σ)
    (method : String)
    (args : List (String × Value))
    (w : World σ) :
    session.direct method args w =
      (some (session.route (session.invocation method args)),
        session.warned w) :=
  rfl

theorem placeOf_noting
    (session : Session σ)
    (i : Invocation)
    (bucket : Option String) :
    placeOf (session.noting.route i) bucket =
      placeOf (session.route i) bucket := by
  rcases session.adapter_noting i with
    ⟨e, hPlain, hNoted⟩ | ⟨name, a, hPlain, _, hNoted⟩
  · rw [placeOf_of_error hPlain, placeOf_of_error hNoted]
  · rw [placeOf_of_ok hPlain, placeOf_of_ok hNoted]
    rfl

end Session

end StorageRouting
