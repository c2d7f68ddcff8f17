import StorageRouting.Proofs.Backend.ClientCall
import StorageRouting.Proofs.Registry.Operation

/-
  Runs of a storage client over stores in memory, while its
  registry changes.  Every store comes to what its own share of
  the run makes of it alone.

  Key definitions include:
    * `ClientStep`
    * `ClientWorld`
    * `ClientWorld.run`
    * `Touch`
    * `ClientWorld.touches`
    * `ClientWorld.handed`
    * `shareOf`
    * `replay`

  Main statements:
    * `ClientWorld.apply_cases`
    * `ClientWorld.store_apply`
    * `ClientWorld.handed_apply`
    * `ClientWorld.store_run`
    * `ClientWorld.buckets_replay_calls`
    * `ClientWorld.run_projects`
-/

------------------------------------------------------------
-- Runs
------------------------------------------------------------

namespace StorageRouting

/-
  A step of a run: a call under a routing stack, a change of
  the registry, or the clock going on.
-/
inductive ClientStep where
| call
    (stack : Stack)
    (bucket : Option String)
    (call : ClientCall) : ClientStep
| setStrict (strict : Bool) : ClientStep
| register (name : String) (a : Adapter Fleet) : ClientStep
| unregister (name : String) : ClientStep
| tick (now : Moment) : ClientStep

/- A registry, and the state behind its backends. -/
structure ClientWorld where
  registry : Registry (Adapter Fleet)
  fleet : Fleet

/- What reaches a backend: a call with mapped names, or its end. -/
inductive Touch where
| call
    (now : Moment)
    (bucket : String)
    (call : ClientCall) : Touch
| close : Touch

namespace Touch

/- What a touch makes of a store alone. -/
def onStore
    (config : BackendConfig)
    (m : MemoryStore) :
    Touch → MemoryStore
| .call now bucket k =>
    k.onAdapter (MemoryStore.alone now config) bucket m
| .close => m.close

/- Whether a touch is a call. -/
def isCall : Touch → Bool
| .call _ _ _ => true
| .close => false

end Touch

namespace ClientWorld

/- The store of a number. -/
def store
    (w : ClientWorld)
    (i : Nat) : MemoryStore :=
  (Fleet.storeSlot i).get w.fleet

/- Carry out a step. -/
def apply
    (c : StorageClient)
    (w : ClientWorld) :
    ClientStep → ClientWorld
| .call stack bucket call =>
    { w with
      fleet := call.run c ⟨w.registry, stack⟩ bucket w.fleet }
| .setStrict strict =>
    { w with registry := w.registry.setStrict strict }
| .register name a =>
    { w with registry := (w.registry.register name a).2 }
| .unregister name =>
    let x := w.registry.unregister (fun _ a => a.close) name w.fleet
    ⟨x.registry, x.state⟩
| .tick now => { w with fleet := { w.fleet with now } }

/- Carry out steps one after the other. -/
def run
    (c : StorageClient) :
    List ClientStep → ClientWorld → ClientWorld
| [], w => w
| step :: steps, w => run c steps (w.apply c step)

/-
  The touches of a step: a call reaches the backend for the key
  on top of its stack, with the bucket and the key mapped by
  the configuration of that backend; a backend that is removed
  is closed.
-/
def touchesOf
    (c : StorageClient)
    (w : ClientWorld) :
    ClientStep → List (Adapter Fleet × Touch)
| .call stack bucket call =>
    match w.registry.resolve stack.peek with
    | .error _ => []
    | .ok a =>
        match c.bucketMapper a.config bucket with
        | none => []
        | some b =>
            [(a,
              .call w.fleet.now b
                (call.mapKeys (c.keyMapper a.config)))]
| .unregister name =>
    match w.registry.removalRefusal? name, w.registry.get? name with
    | none, some a => [(a, .close)]
    | _, _ => []
| _ => []

/- The touches of a run, in order. -/
def touches
    (c : StorageClient) :
    List ClientStep → ClientWorld → List (Adapter Fleet × Touch)
| [], _ => []
| step :: steps, w =>
    w.touchesOf c step ++ touches c steps (w.apply c step)

/- The backend that enters the registry by a step, if any. -/
def enteredBy
    (w : ClientWorld) :
    ClientStep → List (Adapter Fleet)
| .register name a =>
    if (w.registry.register name a).1 then [a] else []
| _ => []

/- The backends that enter the registry in a run. -/
def entered
    (c : StorageClient) :
    List ClientStep → ClientWorld → List (Adapter Fleet)
| [], _ => []
| step :: steps, w =>
    w.enteredBy step ++ entered c steps (w.apply c step)

/-
  The backends of a run: those in the registry, and those that
  enter it.
-/
def handed
    (c : StorageClient)
    (steps : List ClientStep)
    (w : ClientWorld) : List (Adapter Fleet) :=
  w.registry.adapters.values ++ entered c steps w

end ClientWorld

/- The touches of the store of a number. -/
def shareOf
    (place : Adapter Fleet → Nat)
    (i : Nat)
    (touches : List (Adapter Fleet × Touch)) :
    List (Adapter Fleet × Touch) :=
  touches.filter (fun x => place x.1 = i)

/- What touches make of a store alone, one after the other. -/
def replay :
    List (Adapter Fleet × Touch) → MemoryStore → MemoryStore
| [], m => m
| (a, t) :: rest, m => replay rest (t.onStore a.config m)

end StorageRouting

------------------------------------------------------------
-- One Step
------------------------------------------------------------

namespace StorageRouting

namespace Fleet

/- What was put into a store is there. -/
theorem get_set_store
    {f : Fleet}
    {i : Nat}
    (h : i < f.stores.length)
    (m : MemoryStore) :
    (storeSlot i).get ((storeSlot i).set m f) = m := by
  simp [storeSlot, h]

/- What is put into one store does not change another. -/
theorem get_set_store_ne
    {i j : Nat}
    (h : i ≠ j)
    (m : MemoryStore)
    (f : Fleet) :
    (storeSlot i).get ((storeSlot j).set m f) =
      (storeSlot i).get f := by
  simp [storeSlot, List.getElem?_set_ne (Ne.symm h)]

end Fleet

/-
  A backend is the adapter to the store of its number, and
  there is such a store.
-/
def Adapter.StandsAt
    (place : Adapter Fleet → Nat)
    (f : Fleet)
    (a : Adapter Fleet) : Prop :=
  place a < f.stores.length ∧
    a = Fleet.memoryAt (place a) a.config

namespace Adapter.StandsAt

variable {place : Adapter Fleet → Nat}
variable {f : Fleet} {a : Adapter Fleet}

/- A call changes the store of a backend as it does alone. -/
theorem onAdapter
    (h : a.StandsAt place f)
    (call : ClientCall)
    (bucket : String) :
    call.onAdapter a bucket f =
      (Fleet.storeSlot (place a)).set
        (call.onAdapter (MemoryStore.alone f.now a.config) bucket
          ((Fleet.storeSlot (place a)).get f)) f := by
  have hMemory :=
    call.onAdapter_memory (Fleet.storeSlot_restores (place a))
      (·.now) a.config bucket f
  rw [← hMemory]
  exact congrArg (fun a => call.onAdapter a bucket f) h.2

/- To close a backend closes its store. -/
theorem close_snd (h : a.StandsAt place f) :
    (a.close f).2 =
      (Fleet.storeSlot (place a)).set
        ((Fleet.storeSlot (place a)).get f).close f :=
  congrArg (fun a => (a.close f).2) h.2

/- A store after one touch, of it or of another one. -/
theorem get_set
    (h : a.StandsAt place f)
    (t : Touch)
    (i : Nat) :
    (Fleet.storeSlot i).get
        ((Fleet.storeSlot (place a)).set
          (t.onStore a.config
            ((Fleet.storeSlot (place a)).get f)) f) =
      replay (shareOf place i [(a, t)])
        ((Fleet.storeSlot i).get f) := by
  by_cases hSame : place a = i
  · subst hSame
    simp [shareOf, replay, Fleet.get_set_store h.1]
  · simp [shareOf, replay, hSame,
      Fleet.get_set_store_ne (Ne.symm hSame)]

end Adapter.StandsAt

namespace ClientWorld

variable {place : Adapter Fleet → Nat}

/- A target is the backend for the top key, and a bucket. -/
theorem target_cases
    (c : StorageClient)
    (r : Registry (Adapter Fleet))
    (stack : Stack)
    (bucket : Option String) :
    (∃ e, r.resolve stack.peek = .error e ∧
        c.target ⟨r, stack⟩ bucket = .error e) ∨
      (∃ a e, r.resolve stack.peek = .ok a ∧
        c.bucketMapper a.config bucket = none ∧
          c.target ⟨r, stack⟩ bucket = .error e) ∨
      (∃ a b, r.resolve stack.peek = .ok a ∧
        c.bucketMapper a.config bucket = some b ∧
          c.target ⟨r, stack⟩ bucket = .ok (a, b)) := by
  unfold StorageClient.target StorageClient.Route.adapter
    Registry.current
  cases hFound : r.resolve stack.peek with
  | error e => exact Or.inl ⟨e, rfl, rfl⟩
  | ok a =>
      cases hBucket : c.bucketMapper a.config bucket with
      | none =>
          right
          left
          refine
            ⟨a, StorageClient.noBucket a.name, rfl, hBucket, ?_⟩
          simp only [hBucket]
      | some b =>
          right
          right
          refine ⟨a, b, rfl, hBucket, ?_⟩
          simp only [hBucket]

/-
  What a step can do: it touches no backend and leaves all
  stores alone, or it touches one backend of the registry and
  changes its store as the touch does alone.
-/
theorem apply_cases
    (c : StorageClient)
    (w : ClientWorld)
    (step : ClientStep) :
    (w.touchesOf c step = [] ∧
        (w.apply c step).fleet.stores = w.fleet.stores) ∨
      (∃ a t, a ∈ w.registry.adapters.values ∧
        w.touchesOf c step = [(a, t)] ∧
          ∀ place : Adapter Fleet → Nat,
            a.StandsAt place w.fleet →
              (w.apply c step).fleet =
                (Fleet.storeSlot (place a)).set
                  (t.onStore a.config
                    ((Fleet.storeSlot (place a)).get w.fleet))
                  w.fleet) := by
  cases step with
  | setStrict strict => exact Or.inl ⟨rfl, rfl⟩
  | register name a => exact Or.inl ⟨rfl, rfl⟩
  | tick now => exact Or.inl ⟨rfl, rfl⟩
  | call stack bucket call =>
      rcases target_cases c w.registry stack bucket with
        ⟨e, hKey, hTarget⟩ | ⟨a, e, hKey, hBucket, hTarget⟩ |
          ⟨a, b, hKey, hBucket, hTarget⟩
      · left
        refine ⟨by simp only [touchesOf, hKey], ?_⟩
        simp only [apply, ClientCall.run_of_error hTarget]
      · left
        refine ⟨by simp only [touchesOf, hKey, hBucket], ?_⟩
        simp only [apply, ClientCall.run_of_error hTarget]
      · right
        have hOffers : w.registry.Offers a := Or.inl ⟨_, hKey⟩
        refine
          ⟨a,
            .call w.fleet.now b
              (call.mapKeys (c.keyMapper a.config)),
            Registry.mem_values_of_offers hOffers,
            by simp only [touchesOf, hKey, hBucket], ?_⟩
        intro place hStands
        simp only [apply, ClientCall.run_of_ok hTarget]
        exact hStands.onAdapter _ b
  | unregister name =>
      rcases w.registry.unregister_cases (fun _ a => a.close) name
          w.fleet with
        ⟨e, hRefused, hEq⟩ | ⟨hFree, hNone, hEq⟩ |
          ⟨a, hFree, hFound, hEq⟩
      · left
        simp only [touchesOf, apply, hRefused, hEq, and_self]
      · left
        simp only [touchesOf, apply, hFree, hNone, hEq, and_self]
      · right
        refine
          ⟨a, .close, Dictionary.mem_values_of_get? hFound,
            by simp only [touchesOf, hFree, hFound], ?_⟩
        intro place hStands
        simp only [apply, hEq]
        exact hStands.close_snd

/-
  A step changes every store as its share of the step does, and
  the number of stores not at all.
-/
theorem store_apply
    (w : ClientWorld)
    (c : StorageClient)
    (step : ClientStep)
    (h :
      ∀ a ∈ w.registry.adapters.values, a.StandsAt place w.fleet) :
    (w.apply c step).fleet.stores.length =
        w.fleet.stores.length ∧
      ∀ i,
        (w.apply c step).store i =
          replay (shareOf place i (w.touchesOf c step))
            (w.store i) := by
  rcases w.apply_cases c step with
    ⟨hTouches, hStores⟩ | ⟨a, t, hMem, hTouches, hFleet⟩
  · refine ⟨by rw [hStores], fun i => ?_⟩
    rw [hTouches]
    simp only [store, Fleet.storeSlot, hStores, shareOf, replay,
      List.filter_nil]
  · have hStands := h a hMem
    rw [hTouches]
    unfold store
    rw [hFleet place hStands]
    refine ⟨?_, hStands.get_set t⟩
    simp [Fleet.storeSlot]

end ClientWorld

end StorageRouting

------------------------------------------------------------
-- Backends of a Run
------------------------------------------------------------

namespace StorageRouting

namespace ClientWorld

variable {c : StorageClient}

/-
  The backends of a run are those of the rest of it; only a
  step that closes a backend leaves that one behind.
-/
theorem handed_apply
    (c : StorageClient)
    (w : ClientWorld)
    (step : ClientStep)
    (steps : List ClientStep) :
    ((∀ x ∈ w.touchesOf c step, x.2.isCall = true) ∧
        (handed c (step :: steps) w).Perm
          (handed c steps (w.apply c step))) ∨
      (∃ a, w.touchesOf c step = [(a, .close)] ∧
        (handed c (step :: steps) w).Perm
          (a :: handed c steps (w.apply c step))) := by
  cases step with
  | setStrict strict => exact Or.inl ⟨by simp [touchesOf], .rfl⟩
  | tick now => exact Or.inl ⟨by simp [touchesOf], .rfl⟩
  | call stack bucket call =>
      refine Or.inl ⟨?_, .rfl⟩
      simp only [touchesOf]
      split
      · simp
      · split
        · simp
        · simp [Touch.isCall]
  | register name a =>
      refine Or.inl ⟨by simp [touchesOf], ?_⟩
      simp only [handed, entered, enteredBy, apply]
      rcases w.registry.register_cases name a with
        ⟨_, hEq⟩ | ⟨hFree, hEq⟩
      · rw [hEq]
        exact .rfl
      · rw [hEq]
        have hValues :=
          Dictionary.values_insert_perm (a := a) hFree
        exact
          List.perm_middle.trans (hValues.symm.append_right _)
  | unregister name =>
      rcases w.registry.unregister_cases (fun _ a => a.close) name
          w.fleet with
        ⟨e, hRefused, hEq⟩ | ⟨hFree, hNone, hEq⟩ |
          ⟨a, hFree, hFound, hEq⟩
      · left
        simp [touchesOf, handed, entered, enteredBy, apply,
          hRefused, hEq]
      · left
        simp [touchesOf, handed, entered, enteredBy, apply, hFree,
          hNone, hEq]
      · right
        refine ⟨a, by simp only [touchesOf, hFree, hFound], ?_⟩
        simp only [handed, entered, enteredBy, apply, hEq]
        exact (Dictionary.values_erase_perm hFound).append_right _

/- A backend of the rest of a run is one of the run. -/
theorem mem_handed_of_apply
    {w : ClientWorld}
    {step : ClientStep}
    {steps : List ClientStep}
    {a : Adapter Fleet}
    (h : a ∈ handed c steps (w.apply c step)) :
    a ∈ handed c (step :: steps) w := by
  rcases handed_apply c w step steps with
    ⟨_, hPerm⟩ | ⟨b, _, hPerm⟩
  · exact hPerm.mem_iff.mpr h
  · exact hPerm.mem_iff.mpr (List.mem_cons_of_mem _ h)

/- Only backends of a run are touched in it. -/
theorem mem_handed_of_mem_touches
    {steps : List ClientStep}
    {w : ClientWorld}
    {x : Adapter Fleet × Touch}
    (h : x ∈ touches c steps w) : x.1 ∈ handed c steps w := by
  induction steps generalizing w with
  | nil => simp [touches] at h
  | cons step steps ih =>
      rcases List.mem_append.mp h with hNow | hLater
      · rcases w.apply_cases c step with
          ⟨hNone, _⟩ | ⟨a, t, hMem, hOne, _⟩
        · simp [hNone] at hNow
        · rw [hOne, List.mem_singleton] at hNow
          subst hNow
          exact List.mem_append_left _ hMem
      · exact mem_handed_of_apply (ih hLater)

end ClientWorld

end StorageRouting

------------------------------------------------------------
-- Shares of a Run
------------------------------------------------------------

namespace StorageRouting

/- Touches in two parts are replayed one part after the other. -/
theorem replay_append
    (xs ys : List (Adapter Fleet × Touch))
    (m : MemoryStore) :
    replay (xs ++ ys) m = replay ys (replay xs m) := by
  induction xs generalizing m with
  | nil => rfl
  | cons x xs ih => exact ih _

/- The share of two parts is that of the one and of the other. -/
theorem shareOf_append
    (place : Adapter Fleet → Nat)
    (i : Nat)
    (xs ys : List (Adapter Fleet × Touch)) :
    shareOf place i (xs ++ ys) =
      shareOf place i xs ++ shareOf place i ys :=
  List.filter_append _ _

namespace ClientWorld

variable {c : StorageClient} {place : Adapter Fleet → Nat}

/-
  A run brings every store to where its share of the run,
  closing included, brings it alone.
-/
theorem store_run
    (steps : List ClientStep)
    (w : ClientWorld)
    (h : ∀ a ∈ handed c steps w, a.StandsAt place w.fleet)
    (i : Nat) :
    (run c steps w).store i =
      replay (shareOf place i (touches c steps w)) (w.store i) := by
  induction steps generalizing w with
  | nil => rfl
  | cons step steps ih =>
      have hNow :
          ∀ a ∈ w.registry.adapters.values,
            a.StandsAt place w.fleet :=
        fun a ha => h a (List.mem_append_left _ ha)
      rcases w.store_apply c step hNow with ⟨hLength, hStores⟩
      have hLater :
          ∀ a ∈ handed c steps (w.apply c step),
            a.StandsAt place (w.apply c step).fleet := by
        intro a ha
        rcases h a (mem_handed_of_apply ha) with ⟨hPlace, hEq⟩
        exact ⟨by rw [hLength]; exact hPlace, hEq⟩
      rw [run, touches, shareOf_append, replay_append,
        ih (w.apply c step) hLater, hStores]

/-
  If every backend has a place of its own and enters once, no
  touch follows the one that closes a store, so that the calls
  alone make the same of its content.
-/
theorem buckets_replay_calls
    (steps : List ClientStep)
    (w : ClientWorld)
    (h : ((handed c steps w).map place).Nodup)
    (i : Nat)
    (m : MemoryStore) :
    (replay (shareOf place i (touches c steps w)) m).buckets =
      (replay
        ((shareOf place i (touches c steps w)).filter
          (fun x => x.2.isCall)) m).buckets := by
  induction steps generalizing w m with
  | nil => rfl
  | cons step steps ih =>
      rw [touches, shareOf_append, List.filter_append,
        replay_append, replay_append]
      rcases handed_apply c w step steps with
        ⟨hCalls, hPerm⟩ | ⟨a, hClose, hPerm⟩
      · have hNodup := (hPerm.map place).nodup_iff.mp h
        have hAll :
            (shareOf place i (w.touchesOf c step)).filter
                (fun x => x.2.isCall) =
              shareOf place i (w.touchesOf c step) := by
          refine List.filter_eq_self.mpr ?_
          intro x hx
          exact hCalls x (List.mem_filter.mp hx).1
        rw [hAll]
        exact ih (w.apply c step) hNodup _
      · have hNodup := (hPerm.map place).nodup_iff.mp h
        rw [List.map_cons, List.nodup_cons] at hNodup
        rcases hNodup with ⟨hGone, hNodup⟩
        by_cases hSame : place a = i
        · have hNone :
              shareOf place i (touches c steps (w.apply c step)) =
                [] := by
            refine List.filter_eq_nil_iff.mpr ?_
            intro x hx hPlace
            have hPlace : place x.1 = i := by simpa using hPlace
            refine hGone (List.mem_map.mpr ⟨x.1, ?_, ?_⟩)
            · exact mem_handed_of_mem_touches hx
            · rw [hPlace, hSame]
          rw [hNone, hClose]
          simp [shareOf, hSame, replay, Touch.isCall,
            Touch.onStore, MemoryStore.close]
        · have hOther :
              shareOf place i (w.touchesOf c step) = [] := by
            simp [hClose, shareOf, hSame]
          rw [hOther]
          exact ih (w.apply c step) hNodup _

/-
  Isolation of routing.  Over backends in memory, a run of
  calls under any routing stacks, between changes of the
  registry, brings every store to where its share of the run
  brings it alone: the calls for which the key on top of the
  stack resolved to its backend, with the bucket and the key
  mapped once by the configuration of that backend, and the
  closing when the backend is removed.  If the backends are
  distinct, the content of a store is that after the calls
  alone.  A call whose key or bucket does not resolve changes
  nothing.
-/
theorem run_projects
    (c : StorageClient)
    (place : Adapter Fleet → Nat)
    (steps : List ClientStep)
    (w : ClientWorld)
    (h : ∀ a ∈ handed c steps w, a.StandsAt place w.fleet) :
    (∀ i,
        (run c steps w).store i =
          replay (shareOf place i (touches c steps w))
            (w.store i)) ∧
      (((handed c steps w).map place).Nodup →
        ∀ i,
          ((run c steps w).store i).buckets =
            (replay
              ((shareOf place i (touches c steps w)).filter
                (fun x => x.2.isCall)) (w.store i)).buckets) ∧
      (∀ (w' : ClientWorld) stack bucket call,
        ((∃ e, w'.registry.resolve stack.peek = .error e) ∨
          (∃ a, w'.registry.resolve stack.peek = .ok a ∧
            c.bucketMapper a.config bucket = none)) →
          w'.apply c (.call stack bucket call) = w') := by
  refine ⟨store_run steps w h, ?_, ?_⟩
  · intro hNodup i
    rw [store_run steps w h i]
    exact buckets_replay_calls steps w hNodup i _
  · intro w' stack bucket call hUnresolved
    have hTarget :
        ∃ e, c.target ⟨w'.registry, stack⟩ bucket = .error e := by
      rcases target_cases c w'.registry stack bucket with
        ⟨e, _, hTarget⟩ | ⟨a, e, _, _, hTarget⟩ |
          ⟨a, b, hKey, hBucket, _⟩
      · exact ⟨e, hTarget⟩
      · exact ⟨e, hTarget⟩
      · rcases hUnresolved with ⟨e, hNone⟩ | ⟨a', hKey', hNone⟩
        · rw [hKey] at hNone
          cases hNone
        · rw [hKey] at hKey'
          cases hKey'
          rw [hBucket] at hNone
          cases hNone
    rcases hTarget with ⟨e, hTarget⟩
    simp only [apply, ClientCall.run_of_error hTarget]

/- Keys are prefixed with the name of their backend. -/
def sampleClient : StorageClient :=
  ⟨BucketMapper.usual, fun config key => config.name ++ "/" ++ key⟩

/- A backend of a name, with a default bucket. -/
def sampleBackend
    (i : Nat)
    (name : String) : Adapter Fleet :=
  Fleet.memoryAt i
    { BackendConfig.blank with name, defaultBucket := some "own" }

/- The places of the sample's backends, by name. -/
def samplePlace (a : Adapter Fleet) : Nat :=
  if a.name = "one" then 0 else if a.name = "two" then 1 else 2

/- Two backends of three are registered at first. -/
def sampleWorld : ClientWorld where
  registry :=
    (((Registry.new "one" false).register "one"
      (sampleBackend 0 "one")).2.register "two"
        (sampleBackend 1 "two")).2
  fleet :=
    { Fleet.start default with
      stores :=
        ["one", "two", "three"].map (fun name =>
          (MemoryStore.empty name).setBucket "own" .empty) }

/-
  Calls that reach the second backend, fall back to the first,
  are refused, and find a third in place of the second.
-/
def sampleSteps : List ClientStep :=
  [.call ["two"] none (.upload "x" ByteArray.empty none),
    .call ["lost"] none (.upload "y" ByteArray.empty none),
    .setStrict true,
    .call ["lost"] none (.remove "y"),
    .unregister "two",
    .register "two" (sampleBackend 2 "three"),
    .call ["one", "two"] (some "more") .createBucket]

/- What each of the sample's stores holds in the end. -/
theorem sample_run_projects :
    let last := run sampleClient sampleSteps sampleWorld
    handed sampleClient sampleSteps sampleWorld =
        [sampleBackend 0 "one", sampleBackend 1 "two",
          sampleBackend 2 "three"] ∧
      (∀ a ∈ handed sampleClient sampleSteps sampleWorld,
        a.StandsAt samplePlace sampleWorld.fleet) ∧
      ((handed sampleClient sampleSteps sampleWorld).map
        samplePlace).Nodup ∧
      ((last.store 0).buckets.values.map
        (fun b => b.objects.keys)) = [["one/y"]] ∧
      ((last.store 1).buckets.values.map
        (fun b => b.objects.keys)) = [["two/x"]] ∧
      (last.store 2).buckets.keys = ["more", "own"] := by
  have hHanded :
      handed sampleClient sampleSteps sampleWorld =
        [sampleBackend 0 "one", sampleBackend 1 "two",
          sampleBackend 2 "three"] := rfl
  have hStands :
      ∀ a ∈ handed sampleClient sampleSteps sampleWorld,
        a.StandsAt samplePlace sampleWorld.fleet := by
    rw [hHanded]
    intro a ha
    simp only [List.mem_cons, List.not_mem_nil, or_false] at ha
    rcases ha with rfl | rfl | rfl <;>
      exact ⟨by decide, rfl⟩
  have hNodup :
      ((handed sampleClient sampleSteps sampleWorld).map
        samplePlace).Nodup := by
    rw [hHanded]
    decide
  have hProjects :=
    run_projects sampleClient samplePlace sampleSteps sampleWorld
      hStands
  refine ⟨hHanded, hStands, hNodup, ?_, ?_, ?_⟩
  · rw [hProjects.2.1 hNodup 0]
    decide
  · rw [hProjects.2.1 hNodup 1]
    decide
  · rw [hProjects.2.1 hNodup 2]
    decide

end ClientWorld

end StorageRouting
