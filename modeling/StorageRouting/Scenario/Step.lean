import StorageRouting.Backend.Client
import StorageRouting.Registry.Health
import StorageRouting.Scenario.Fleet

/-
  Steps of a scenario: what a routed program does to a registry
  and its backends, and what it is told.

  Key definitions include:
    * `Target`
    * `StorageStep`
    * `ScenarioStep`
    * `ScenarioAnswer`
-/

------------------------------------------------------------
-- Storage Steps
------------------------------------------------------------

namespace StorageRouting

/- The store that a step works on. -/
inductive Target where
| registry : Target
| client : Target
| adapter (name : String) : Target
| held (id : String) : Target
deriving DecidableEq, Repr

/- An operation on a store. -/
inductive StorageStep where
| put
    (key : String)
    (body : Body)
    (whole : Bool)
    (size : Option Nat)
    (contentType : Option String) : StorageStep
| get (key : String) : StorageStep
| openObject (key : String) : StorageStep
| delete (key : String) : StorageStep
| hasObject (key : String) : StorageStep
| stat (key : String) : StorageStep
| list (options : ListOptions) : StorageStep
| listAll (options : ListOptions) : StorageStep
| pages (options : ListOptions) : StorageStep
| hasBucket : StorageStep
| createBucket : StorageStep
| deleteBucket : StorageStep
| setAcl (key : Option String) (acl : CannedAcl) : StorageStep
| getAcl (key : Option String) : StorageStep
| link
    (key : String)
    (method : LinkMethod)
    (ttl : Nat) : StorageStep
| backendName : StorageStep
| bucketFor : StorageStep

end StorageRouting

------------------------------------------------------------
-- Steps
------------------------------------------------------------

namespace StorageRouting

/- How an adapter of a scenario behaves. -/
inductive Behaviour where
| honest : Behaviour
| stubborn : Behaviour
| hanging : Behaviour
| scripted (script : Adapter.Script) : Behaviour

/- An adapter to be made; there may be no configuration. -/
structure AdapterSpec where
  behaviour : Behaviour
  config : Option BackendConfig

/- A step on a registry, on its backends or on a client. -/
inductive ScenarioStep where
| register (name : String) (spec : AdapterSpec) : ScenarioStep
| registerHeld (id name : String) : ScenarioStep
| unregister (name : String) : ScenarioStep
| resolve (name : String) : ScenarioStep
| current : ScenarioStep
| lookup (name : String) : ScenarioStep
| currentConfig : ScenarioStep
| contains (name : String) : ScenarioStep
| size : ScenarioStep
| backends : ScenarioStep
| adapters : ScenarioStep
| setStrict (strict : Bool) : ScenarioStep
| isStrict : ScenarioStep
| primary : ScenarioStep
| diagnostics : ScenarioStep
| events : ScenarioStep
| asked : ScenarioStep
| shutdown : ScenarioStep
| populate (configs : Option (List BackendConfig)) : ScenarioStep
| hold (id name : String) : ScenarioStep
| close (target : Target) : ScenarioStep
| probe (target : Target) : ScenarioStep
| health
    (timeout : Timeout)
    (name : Option String) : ScenarioStep
| storage
    (target : Target)
    (bucket : Option String)
    (step : StorageStep) : ScenarioStep

/- What a step is told. -/
inductive ScenarioAnswer where
| unit : ScenarioAnswer
| flag (b : Bool) : ScenarioAnswer
| text (s : String) : ScenarioAnswer
| text? (s : Option String) : ScenarioAnswer
| texts (ss : List String) : ScenarioAnswer
| size (n : Nat) : ScenarioAnswer
| adapters (named : List (String × String)) : ScenarioAnswer
| config (c : BackendConfig) : ScenarioAnswer
| events (es : List RegistryEvent) : ScenarioAnswer
| asked (options : List ListOptions) : ScenarioAnswer
| summary (s : ShutdownSummary) : ScenarioAnswer
| health
    (r : HealthReport)
    (found : Option (Option HealthStatus)) : ScenarioAnswer
| object (o : ObjectInfo) : ScenarioAnswer
| objects (os : List ObjectInfo) : ScenarioAnswer
| bytes (b : Bytes) : ScenarioAnswer
| chunks (body : Body) : ScenarioAnswer
| page (p : ListPage) : ScenarioAnswer
| pages (ps : List (Except Error ListPage)) : ScenarioAnswer
| policy (p : AccessPolicy) : ScenarioAnswer
| link (url : String) (ttl : Nat) : ScenarioAnswer

/- Why a step has no answer. -/
inductive ScenarioError where
| failed (e : Error) : ScenarioError
| notHeld : ScenarioError
| unreadable : ScenarioError
| silent : ScenarioError
| misplaced : ScenarioError

end StorageRouting
