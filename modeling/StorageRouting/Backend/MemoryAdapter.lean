import StorageRouting.Backend.Memory
import StorageRouting.Backend.Store

/-
  Adapters to stores in memory.

  Key definitions include:
    * `MemoryStore.ofConfig`
    * `MemoryStore.objectStore`
    * `MemoryStore.adapter`
-/

------------------------------------------------------------
-- Adapters
------------------------------------------------------------

namespace StorageRouting

namespace MemoryStore

variable {σ : Type}

/-
  The store that a configuration starts with: the default
  bucket is there when it is to be created.
-/
def ofConfig (c : BackendConfig) : Except Error MemoryStore :=
  match c.preCheck with
  | .error e => .error e
  | .ok _ =>
      match c.autoCreateBucket, c.defaultBucket with
      | true, some bucket =>
          .ok ((empty c.name).setBucket bucket MemoryBucket.empty)
      | _, _ => .ok (empty c.name)

/- The operations on a store in a place of the state. -/
def objectStore
    (slot : Slot σ MemoryStore)
    (now : σ → Moment) : ObjectStore σ where
  put name key body size contentType := fun s =>
    slot.writing
      (fun m => m.put (now s) name key body size contentType) s
  get name key := slot.reading (fun m => m.get name key)
  delete name key := slot.writing (fun m => m.delete name key)
  list name options := slot.reading (fun m => m.list name options)
  hasObject name key :=
    slot.reading (fun m => m.hasObject name key)
  hasBucket name := slot.reading (fun m => m.hasBucket name)
  createBucket name := slot.writing (fun m => m.createBucket name)
  deleteBucket name := slot.writing (fun m => m.deleteBucket name)
  setAcl name key acl :=
    slot.writing (fun m => m.setAcl name key acl)
  getAcl name key := slot.reading (fun m => m.getAcl name key)
  link name key method ttl := fun s =>
    slot.reading (fun m => m.link (now s) name key method ttl) s

/- The adapter to a store in a place of the state. -/
def adapter
    (slot : Slot σ MemoryStore)
    (now : σ → Moment)
    (config : BackendConfig) : Adapter σ where
  toObjectStore := objectStore slot now
  config := config
  close := slot.writing (fun m => .ok ((), m.close))
  probe := fun s => (some (slot.get s).ensureOpen, s)

end MemoryStore

end StorageRouting
