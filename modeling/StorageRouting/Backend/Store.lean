import StorageRouting.Access
import StorageRouting.Backend.Object
import StorageRouting.Config.Settings

/-
  Stores of objects, and the adapters that connect to them.

  Key definitions include:
    * `Action`
    * `ObjectStore`
    * `Adapter`
    * `ListWalk.step`
    * `ListWalk.drain`
    * `ListWalk.find`
-/

------------------------------------------------------------
-- Actions
------------------------------------------------------------

namespace StorageRouting

/-
  An action on a state: it changes the state, and answers with
  a value or an error.
-/
abbrev Action (σ α : Type) :=
  ExceptT Error (StateM σ) α

namespace Action

variable {σ α : Type}

/- The action of a function. -/
def of
    (f : σ → Except Error α × σ) : Action σ α :=
  f

/- Carry out an action. -/
def apply
    (a : Action σ α)
    (s : σ) : Except Error α × σ :=
  a s

/- Answer what was computed without the state. -/
def pure? (r : Except Error α) : Action σ α :=
  fun s => (r, s)

end Action

/- A part of a state that can be read and replaced. -/
structure Slot (σ τ : Type) where
  get : σ → τ
  set : τ → σ → σ

namespace Slot

variable {σ τ α : Type}

/- Read through a slot; the state stays as it is. -/
def reading
    (slot : Slot σ τ)
    (f : τ → Except Error α) : Action σ α :=
  fun s => (f (slot.get s), s)

/- Change through a slot; a failure leaves the state as it is. -/
def writing
    (slot : Slot σ τ)
    (f : τ → Except Error (α × τ)) : Action σ α :=
  fun s =>
    match f (slot.get s) with
    | .ok (a, t) => (.ok a, slot.set t s)
    | .error e => (.error e, s)

end Slot

end StorageRouting

------------------------------------------------------------
-- Object Stores
------------------------------------------------------------

namespace StorageRouting

/-
  What every backend offers.  Buckets come first, then keys.
-/
structure ObjectStore (σ : Type) where
  put :
    String → String → Body → Option Nat → Option String →
      Action σ ObjectInfo
  get : String → String → Action σ Body
  delete : String → String → Action σ Unit
  list : String → ListOptions → Action σ ListPage
  hasObject : String → String → Action σ Bool
  hasBucket : String → Action σ Bool
  createBucket : String → Action σ Unit
  deleteBucket : String → Action σ Unit
  setAcl : String → Option String → CannedAcl → Action σ Unit
  getAcl : String → Option String → Action σ AccessPolicy
  link : String → String → LinkMethod → Nat → Action σ String

/-
  A probe answers success or an error, or does not answer at
  all.
-/
abbrev Probe (σ : Type) :=
  σ → Option (Except Error Unit) × σ

/- A connection to one configured backend. -/
structure Adapter (σ : Type) extends ObjectStore σ where
  config : BackendConfig
  close : Action σ Unit
  probe : Probe σ

namespace Adapter

variable {σ : Type}

/- The name of an adapter is that of its configuration. -/
def name (a : Adapter σ) : String :=
  a.config.name

end Adapter

namespace ObjectStore

variable {σ : Type}

/- Ask whether the default bucket can be looked up, if any. -/
def usualProbe
    (store : ObjectStore σ)
    (config : BackendConfig) : Probe σ :=
  fun s =>
    match config.defaultBucket with
    | none => (some (.ok ()), s)
    | some bucket =>
        match store.hasBucket bucket s with
        | (.ok _, s) => (some (.ok ()), s)
        | (.error e, s) => (some (.error e), s)

end ObjectStore

end StorageRouting

------------------------------------------------------------
-- Walking a Listing
------------------------------------------------------------

namespace StorageRouting

/-
  A walk through the pages of a listing: what to ask for next,
  if there is more.
-/
abbrev ListWalk :=
  Option ListOptions

namespace ListWalk

variable {σ : Type}

/- The failure of a page that has no continuation. -/
def brokenOff (bucket : String) : Error :=
  .backendOperationFailed
    ("Truncated listing of '" ++ bucket ++
      "' without continuation token")

/- What to ask for after a page. -/
def following
    (bucket : String)
    (options : ListOptions)
    (page : ListPage) : Except Error ListWalk :=
  match page.truncated, page.token with
  | true, some token =>
      .ok (some { options with token := some token })
  | true, none => .error (brokenOff bucket)
  | false, _ => .ok none

/-
  Ask for the next page.  There is none after the last one and
  after an error.
-/
def step
    (store : ObjectStore σ)
    (bucket : String)
    (walk : ListWalk)
    (s : σ) : Option (Except Error ListPage) × ListWalk × σ :=
  match walk with
  | none => (none, none, s)
  | some options =>
      match store.list bucket options s with
      | (.error e, s) => (some (.error e), none, s)
      | (.ok page, s) =>
          match following bucket options page with
          | .error e => (some (.error e), none, s)
          | .ok walk => (some (.ok page), walk, s)

/- All pages of a walk, if it ends. -/
def drain?
    (store : ObjectStore σ)
    (bucket : String)
    (walk : ListWalk)
    (s : σ) : Option (List (Except Error ListPage) × σ) :=
  match step store bucket walk s with
  | (none, _, s) => some ([], s)
  | (some page, walk, s) => do
      let (pages, s) ← walk |>.drain? store bucket s
      return (page :: pages, s)
partial_fixpoint

/-
  The first entry of a walk that satisfies a test, if the
  search ends; no page is asked for after the one that holds
  it.
-/
def find?
    (store : ObjectStore σ)
    (bucket : String)
    (p : ObjectInfo → Bool)
    (walk : ListWalk)
    (s : σ) : Option (Except Error (Option ObjectInfo) × σ) :=
  match step store bucket walk s with
  | (none, _, s) => some (.ok none, s)
  | (some (.error e), _, s) => some (.error e, s)
  | (some (.ok page), walk, s) =>
      match page.items.find? p with
      | some info => some (.ok (some info), s)
      | none => walk |>.find? store bucket p s
partial_fixpoint

/-
  What stands for the answer of a walk that never ends.  As
  such a walk does not come to an answer, nobody is given it.
-/
def endless (bucket : String) : Error :=
  .backendOperationFailed
    ("Listing of '" ++ bucket ++ "' does not end")

/- All pages of a walk. -/
def drain
    (store : ObjectStore σ)
    (bucket : String)
    (walk : ListWalk)
    (s : σ) : List (Except Error ListPage) × σ :=
  (drain? store bucket walk s).getD ([.error (endless bucket)], s)

/- The first entry of a walk that satisfies a test. -/
def find
    (store : ObjectStore σ)
    (bucket : String)
    (p : ObjectInfo → Bool)
    (walk : ListWalk) : Action σ (Option ObjectInfo) :=
  fun s =>
    (find? store bucket p walk s).getD (.error (endless bucket), s)

end ListWalk

end StorageRouting
