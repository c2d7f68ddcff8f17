import StorageRouting.Routing.Machine
import StorageRouting.Scenario.Step

/-
  How the steps of a scenario work.

  Key definitions include:
    * `ScenarioWorld`
    * `StorageStep.onStore`
    * `StorageStep.onClient`
    * `ScenarioStep.run`
-/

------------------------------------------------------------
-- Worlds
------------------------------------------------------------

namespace StorageRouting

/-
  A registry, a client, the adapters that the scenario holds,
  and the state behind them.
-/
structure ScenarioWorld where
  fleet : Fleet
  registry : Registry (Adapter Fleet)
  client : StorageClient
  chain : ConverterChain (Adapter Fleet) Fleet
  held : List (String × Adapter Fleet)

/- The answer of a step, or why there is none. -/
abbrev ScenarioResult :=
  Except ScenarioError ScenarioAnswer

namespace ScenarioWorld

/- Answer what an action on the fleet answers. -/
def act
    {α : Type}
    (w : ScenarioWorld)
    (a : Action Fleet α)
    (answer : α → ScenarioAnswer) :
    ScenarioResult × ScenarioWorld :=
  match a w.fleet with
  | (.ok v, fleet) => (.ok (answer v), { w with fleet })
  | (.error e, fleet) => (.error (.failed e), { w with fleet })

/- Answer what was computed without a change. -/
def tell
    {α : Type}
    (w : ScenarioWorld)
    (r : Except Error α)
    (answer : α → ScenarioAnswer) :
    ScenarioResult × ScenarioWorld :=
  match r with
  | .ok v => (.ok (answer v), w)
  | .error e => (.error (.failed e), w)

/- The adapter of a target that names one. -/
def adapter
    (w : ScenarioWorld)
    (target : Target) :
    Except ScenarioError (Adapter Fleet) :=
  match target with
  | .adapter name =>
      match w.registry.get? name with
      | some a => .ok a
      | none => .error .notHeld
  | .held id =>
      match w.held.lookup id with
      | some a => .ok a
      | none => .error .notHeld
  | _ => .error .misplaced

/- Make an adapter. -/
def make
    (spec : AdapterSpec)
    (f : Fleet) : Except Error (Adapter Fleet) × Fleet :=
  match spec.config with
  | none => (.error (.general "bad config"), f)
  | some config =>
      match Fleet.openMemory config f with
      | (.error e, f) => (.error e, f)
      | (.ok a, f) =>
          match spec.behaviour with
          | .honest => (.ok a, f)
          | .stubborn => (.ok a.stubborn, f)
          | .hanging => (.ok a.hanging, f)
          | .scripted script =>
              let (a, f) := f.withScript script a
              (.ok a, f)

end ScenarioWorld

end StorageRouting

------------------------------------------------------------
-- Storage Steps
------------------------------------------------------------

namespace StorageRouting

namespace StorageStep

/- Collect the chunks of an object. -/
def collected
    {σ : Type}
    (a : Action σ Body) : Action σ Bytes :=
  fun s =>
    match a s with
    | (.ok body, s) => (body.collect, s)
    | (.error e, s) => (.error e, s)

/- Carry out an operation on a store and a bucket. -/
def onStore
    (store : ObjectStore Fleet)
    (bucket : String)
    (step : StorageStep)
    (w : ScenarioWorld) : ScenarioResult × ScenarioWorld :=
  match step with
  | .put key body _ size contentType =>
      w.act (store.put bucket key body size contentType) .object
  | .get key => w.act (collected (store.get bucket key)) .bytes
  | .openObject key => w.act (store.get bucket key) .chunks
  | .delete key =>
      w.act (store.delete bucket key) (fun _ => .unit)
  | .hasObject key => w.act (store.hasObject bucket key) .flag
  | .list options => w.act (store.list bucket options) .page
  | .pages options =>
      let (walked, fleet) :=
        ListWalk.drain store bucket (some options) w.fleet
      (.ok (.pages walked), { w with fleet })
  | .hasBucket => w.act (store.hasBucket bucket) .flag
  | .createBucket =>
      w.act (store.createBucket bucket) (fun _ => .unit)
  | .deleteBucket =>
      w.act (store.deleteBucket bucket) (fun _ => .unit)
  | .setAcl key acl =>
      w.act (store.setAcl bucket key acl) (fun _ => .unit)
  | .getAcl key => w.act (store.getAcl bucket key) .policy
  | .link key method ttl =>
      w.act (store.link bucket key method ttl)
        (fun url => .link url ttl)
  | .stat _ => (.error .misplaced, w)
  | .listAll _ => (.error .misplaced, w)
  | .backendName => (.error .misplaced, w)
  | .bucketFor => (.error .misplaced, w)

/- Carry out an operation on the client. -/
def onClient
    (stack : Stack)
    (bucket : Option String)
    (step : StorageStep)
    (w : ScenarioWorld) : ScenarioResult × ScenarioWorld :=
  let c := w.client
  let r : StorageClient.Route Fleet := ⟨w.registry, stack⟩
  match step with
  | .put key body whole size contentType =>
      match whole, body with
      | true, [.ok data] =>
          w.act (c.upload r bucket key data contentType) .object
      | _, _ =>
          w.act
            (c.uploadStream r bucket key body size contentType)
            .object
  | .get key => w.act (c.download r bucket key) .bytes
  | .openObject key => w.act (c.openObject r bucket key) .chunks
  | .delete key =>
      w.act (c.remove r bucket key) (fun _ => .unit)
  | .hasObject key => w.act (c.hasObject r bucket key) .flag
  | .stat key => w.act (c.stat r bucket key) .object
  | .list options => w.act (c.list r bucket options) .page
  | .listAll options =>
      w.act (c.listAll r bucket options) .objects
  | .pages _ => (.error .misplaced, w)
  | .hasBucket => w.act (c.hasBucket r bucket) .flag
  | .createBucket => w.act (c.createBucket r bucket) .text
  | .deleteBucket => w.act (c.deleteBucket r bucket) .text
  | .setAcl key acl =>
      w.act (c.setAcl r bucket key acl) (fun _ => .unit)
  | .getAcl key => w.act (c.getAcl r bucket key) .policy
  | .link key method ttl =>
      w.act (c.link r bucket key method ttl)
        (fun url => .link url ttl)
  | .backendName => w.tell (StorageClient.backendName r) .text
  | .bucketFor => w.tell (c.bucketFor r bucket) .text

/- Carry out an operation on a target. -/
def onTarget
    (stack : Stack)
    (target : Target)
    (bucket : Option String)
    (step : StorageStep)
    (w : ScenarioWorld) : ScenarioResult × ScenarioWorld :=
  match target with
  | .client => step.onClient stack bucket w
  | .registry =>
      step.onStore (w.registry.objectStore stack)
        (bucket.getD "") w
  | target =>
      match w.adapter target with
      | .ok a => step.onStore a.toObjectStore (bucket.getD "") w
      | .error e => (.error e, w)

end StorageStep

end StorageRouting

------------------------------------------------------------
-- All Steps
------------------------------------------------------------

namespace StorageRouting

namespace ScenarioStep

/- How adapters are closed. -/
def closing : Registry.Close (Adapter Fleet) Fleet :=
  fun _ a f => a.close f

/- Take over what came of an operation on the registry. -/
def settle
    {α : Type}
    (w : ScenarioWorld)
    (c : Registry.Changed (Adapter Fleet) Fleet α) :
    ScenarioWorld :=
  { w with registry := c.registry, fleet := c.state }

/- Register an adapter. -/
def registerAs
    (w : ScenarioWorld)
    (name : String)
    (a : Adapter Fleet) : ScenarioResult × ScenarioWorld :=
  let (added, registry) := w.registry.register name a
  (.ok (.flag added), { w with registry })

/- Carry out a step under a routing stack. -/
def run
    (step : ScenarioStep)
    (stack : Stack)
    (w : ScenarioWorld) : ScenarioResult × ScenarioWorld :=
  match step with
  | .register name spec =>
      match ScenarioWorld.make spec w.fleet with
      | (.error e, fleet) => (.error (.failed e), { w with fleet })
      | (.ok a, fleet) => registerAs { w with fleet } name a
  | .registerHeld id name =>
      match w.held.lookup id with
      | none => (.error .notHeld, w)
      | some a => registerAs w name a
  | .unregister name =>
      let c := w.registry.unregister closing name w.fleet
      (settle w c).tell c.answer .flag
  | .resolve name =>
      w.tell (w.registry.resolve name) (fun a => .text a.name)
  | .current =>
      w.tell (w.registry.current stack) (fun a => .text a.name)
  | .lookup name =>
      (.ok (.text? ((w.registry.get? name).map (·.name))), w)
  | .currentConfig =>
      w.tell (w.registry.current stack) (fun a => .config a.config)
  | .contains name => (.ok (.flag (w.registry.contains name)), w)
  | .size => (.ok (.size w.registry.adapters.size), w)
  | .backends => (.ok (.texts w.registry.backends), w)
  | .adapters =>
      let named :=
        w.registry.adapters.entries.map (fun e => (e.1, e.2.name))
      (.ok (.adapters named), w)
  | .setStrict strict =>
      (.ok (.flag strict),
        { w with registry := w.registry.setStrict strict })
  | .isStrict => (.ok (.flag w.registry.strict), w)
  | .primary => (.ok (.text w.registry.primary), w)
  | .diagnostics =>
      (.ok
        (.texts
          [w.registry.diagnostic,
            StorageClient.diagnostic w.registry]), w)
  | .events =>
      let (seen, registry) := w.registry.collectEvents
      (.ok (.events seen), { w with registry })
  | .asked =>
      (.ok (.asked w.fleet.asked),
        { w with fleet := { w.fleet with asked := [] } })
  | .shutdown =>
      let c := w.registry.shutdown closing w.fleet
      (.ok (.summary c.answer), settle w c)
  | .populate none => (.error .unreadable, w)
  | .populate (some configs) =>
      let c := w.registry.populate w.chain configs w.fleet
      (settle w c).tell c.answer (fun _ => .unit)
  | .hold id name =>
      match w.registry.resolve name with
      | .error e => (.error (.failed e), w)
      | .ok a => (.ok (.text a.name), { w with held := (id, a) :: w.held })
  | .close target =>
      match w.adapter target with
      | .error e => (.error e, w)
      | .ok a => w.act a.close (fun _ => .unit)
  | .probe target =>
      match w.adapter target with
      | .error e => (.error e, w)
      | .ok a =>
          match a.probe w.fleet with
          | (none, fleet) => (.error .silent, { w with fleet })
          | (some r, fleet) =>
              ScenarioWorld.tell { w with fleet } r (fun _ => .unit)
  | .health timeout name =>
      let (report, fleet) :=
        HealthReport.check (Adapter.prober (·.now) timeout)
          w.registry w.fleet
      let found :=
        name.map (fun n => (report.backend? n).map (·.status))
      (.ok (.health report found), { w with fleet })
  | .storage target bucket step =>
      step.onTarget stack target bucket w

/- Steps as actions of a routed program. -/
def outside :
    Outside ScenarioStep ScenarioResult ScenarioWorld :=
  fun step stack w => step.run stack w

end ScenarioStep

end StorageRouting
