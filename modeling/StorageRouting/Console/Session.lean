import StorageRouting.Backend.Client
import StorageRouting.Config.Location
import StorageRouting.Config.Source
import StorageRouting.Console.Job
import StorageRouting.Registry.Converter
import StorageRouting.Routing.Interceptor

/-
  Sessions: the backends of a configuration, and the routing
  key under which all commands run.

  Key definitions include:
    * `Platform`
    * `Session`
    * `Session.connect`
    * `Session.route`
    * `Session.direct`
    * `Session.placeOf`
    * `Session.close`
-/

------------------------------------------------------------
-- Sessions
------------------------------------------------------------

namespace StorageRouting

/-
  What a session is made with: the converters that build its
  backends, the place of revealed credentials, and the clock.
-/
structure Platform (σ : Type) where
  converters : List (Converter (Adapter σ) σ)
  vault : Slot σ Vault
  now : σ → Moment

/- How to open a session. -/
structure SessionOptions where
  config : Option String
  backend : String
  strict : Bool
  headers : List (String × String)
deriving DecidableEq, Repr, Inhabited

/-
  A registry, the clock, the routing key of all commands, the
  headers of their calls, and whether health is always probed.
-/
structure Session (σ : Type) where
  registry : Registry (Adapter σ)
  now : σ → Moment
  backend : String
  headers : List (String × String)
  probesHealth : Bool

namespace Session

variable {σ : Type}

/- A session over a registry that is there already. -/
def ofRegistry
    (registry : Registry (Adapter σ))
    (now : σ → Moment)
    (backend : String) : Session σ :=
  { registry, now, backend, headers := [], probesHealth := false }

/- Connect to all backends of settings. -/
def connect
    (p : Platform σ)
    (o : SessionOptions)
    (settings : Settings) : Action σ (Session σ) :=
  let settings :=
    { settings with strict := settings.strict || o.strict }
  let chain : ConverterChain (Adapter σ) σ :=
    { converters := p.converters
      credentials := .rsa settings.publicKey p.vault }
  fun s =>
    match Registry.ofSettings chain settings s with
    | (.error e, s) => (.error e, s)
    | (.ok registry, s) =>
        (.ok
          { ofRegistry registry p.now o.backend with
            headers := o.headers
            probesHealth := settings.health }, s)

/-
  Open a session: load the settings from the file that is
  named, or from the usual one, and connect to the backends.
-/
def establish
    (p : Platform σ)
    (env : ConfigLocation.Environment)
    (o : SessionOptions) : Job σ (Except Error (Session σ)) := do
  let path := o.config.getD (ConfigLocation.path env)
  match ← Job.look (fun files => Settings.load files path) with
  | .error e => return .error e
  | .ok settings => Job.ask (connect p o settings)

/- Close all backends. -/
def close (session : Session σ) : Job σ ShutdownSummary :=
  fun w =>
    let changed :=
      session.registry.shutdown (fun _ a => a.close) w.backends
    (some changed.answer, { w with backends := changed.state })

end Session

end StorageRouting

------------------------------------------------------------
-- Routing
------------------------------------------------------------

namespace StorageRouting

/- The backend and the bucket that a command works on. -/
structure Place where
  backend : String
  bucket : String
deriving DecidableEq, Repr

namespace Place

/- The fields of a place in declared order. -/
def fields (p : Place) : List (String × Value) :=
  [("backend", .string p.backend), ("bucket", .string p.bucket)]

/- A place in words. -/
def text (p : Place) : String :=
  p.backend ++ ":" ++ p.bucket

/- An object of a place in words. -/
def object
    (p : Place)
    (key : String) : String :=
  p.text ++ "/" ++ key

end Place

namespace Session

variable {σ : Type}

/- The call of a command, with the headers of the session. -/
def invocation
    (session : Session σ)
    (method : String)
    (args : List (String × Value)) : Invocation :=
  { (Invocation.new method).withHeaders session.headers with args }

/- The route of a call under the routing key of the session. -/
def route
    (session : Session σ)
    (i : Invocation) : StorageClient.Route σ where
  registry := session.registry
  stack :=
    [Interceptor.standard.determineKey session.backend i]

/-
  The route of the call of a command.  The headers that no call
  can have are warned of.
-/
def direct
    (session : Session σ)
    (method : String)
    (args : List (String × Value)) :
    Job σ (StorageClient.Route σ) := do
  Job.log session.now (Invocation.headerWarnings session.headers)
  return session.route (session.invocation method args)

/- Where a route leads with a bucket. -/
def placeOf
    (r : StorageClient.Route σ)
    (bucket : Option String) : Except Error Place := do
  let backend ← StorageClient.backendName r
  let bucket ← StorageClient.standard.bucketFor r bucket
  return ⟨backend, bucket⟩

end Session

end StorageRouting
