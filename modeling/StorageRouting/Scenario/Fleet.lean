import StorageRouting.Backend.MemoryAdapter
import StorageRouting.Backend.Simulated
import StorageRouting.Registry.Converter
import StorageRouting.S3.Adapter

/-
  The state behind a set of backends: stores in memory, scripts
  of listings and of responses, revealed credentials, and the
  present moment.

  Key definitions include:
    * `ScriptedServer`
    * `Fleet`
    * `Fleet.openMemory`
    * `Fleet.surroundings`
    * `Converter.memory`
    * `Converter.standIn`
-/

------------------------------------------------------------
-- Scripted Servers
------------------------------------------------------------

namespace StorageRouting

/-
  A server that gives its responses in order, whatever it is
  asked, and notes the requests.
-/
structure ScriptedServer where
  authority : String
  responses : List Response
  requests : List Request

namespace ScriptedServer

/- A server that cannot be reached. -/
def absent : ScriptedServer :=
  ⟨"", [], []⟩

/- The response of a server whose script is at its end. -/
def exhausted : Response :=
  { status := 400, headers := []
    body :=
      Bytes.ofString
        "<Error><Code>ScriptExhausted</Code></Error>" }

/- The response to a request, if it reaches the server. -/
def respond
    (server : ScriptedServer)
    (r : Request) : Option Response × ScriptedServer :=
  if r.authority ≠ server.authority then (none, server)
  else
    let server :=
      { server with requests := server.requests ++ [r] }
    match server.responses with
    | [] => (some exhausted, server)
    | response :: responses =>
        (some response, { server with responses })

end ScriptedServer

end StorageRouting

------------------------------------------------------------
-- The State
------------------------------------------------------------

namespace StorageRouting

/- The state behind a set of backends. -/
structure Fleet where
  now : Moment
  stores : List MemoryStore
  scripts : List Adapter.Script
  asked : List ListOptions
  vault : Vault
  counters : List Nat
  closed : List Bool
  server : ScriptedServer

namespace Fleet

/- A state in which nothing was opened yet. -/
def start (now : Moment) : Fleet :=
  { now, stores := [], scripts := [], asked := []
    vault := Vault.empty, counters := [], closed := []
    server := ScriptedServer.absent }

/- The store of a number. -/
def storeSlot (i : Nat) : Slot Fleet MemoryStore where
  get f := (f.stores[i]?).getD (MemoryStore.empty "")
  set m f := { f with stores := f.stores.set i m }

/- The script of a number. -/
def scriptSlot (i : Nat) : Slot Fleet Adapter.Script where
  get f := (f.scripts[i]?).getD []
  set script f := { f with scripts := f.scripts.set i script }

/- What scripted adapters were asked for. -/
def askedSlot : Slot Fleet (List ListOptions) where
  get f := f.asked
  set asked f := { f with asked }

/- The revealed credentials. -/
def vaultSlot : Slot Fleet Vault where
  get f := f.vault
  set vault f := { f with vault }

/- The counter of a number. -/
def counterSlot (i : Nat) : Slot Fleet Nat where
  get f := (f.counters[i]?).getD 0
  set n f := { f with counters := f.counters.set i n }

/- Set a new counter up. -/
def newCounter (f : Fleet) : Slot Fleet Nat × Fleet :=
  (counterSlot f.counters.length,
    { f with counters := f.counters ++ [0] })

/- Whether the connection of a number was closed. -/
def closedSlot (i : Nat) : Slot Fleet Bool where
  get f := (f.closed[i]?).getD false
  set b f := { f with closed := f.closed.set i b }

/- What connections to services need. -/
def surroundings : Surroundings Fleet where
  newFlag f :=
    (closedSlot f.closed.length,
      { f with closed := f.closed ++ [false] })
  wire r f :=
    let (response, server) := f.server.respond r
    (response, { f with server })
  now f := f.now

/- Open a store in memory. -/
def openMemory
    (config : BackendConfig) : Action Fleet (Adapter Fleet) :=
  fun f =>
    match MemoryStore.ofConfig config with
    | .error e => (.error e, f)
    | .ok m =>
        let slot := storeSlot f.stores.length
        (.ok (MemoryStore.adapter slot (·.now) config),
          { f with stores := f.stores ++ [m] })

/- Set a new script up around an adapter. -/
def withScript
    (script : Adapter.Script)
    (a : Adapter Fleet)
    (f : Fleet) : Adapter Fleet × Fleet :=
  (a.scripted (scriptSlot f.scripts.length) askedSlot,
    { f with scripts := f.scripts ++ [script] })

end Fleet

end StorageRouting

------------------------------------------------------------
-- Converters
------------------------------------------------------------

namespace StorageRouting

namespace Converter

/- Builds stores in memory. -/
def memory : Converter (Adapter Fleet) Fleet where
  name := BackendConfig.memoryKind
  convert config _ :=
    if config.kind = BackendConfig.memoryKind then
      fun f =>
        match Fleet.openMemory config f with
        | (.ok a, f) => (.ok (some a), f)
        | (.error e, f) => (.error e, f)
    else Action.pure? (.ok none)

/- Declines every configuration. -/
def declining (name : String) : Converter (Adapter Fleet) Fleet where
  name := name
  convert _ _ := Action.pure? (.ok none)

/- Fails on every configuration. -/
def failing (name : String) : Converter (Adapter Fleet) Fleet where
  name := name
  convert config _ :=
    Action.pure?
      (.error
        (.unsupportedFeature ("cannot build " ++ config.name)))

/-
  Builds every configuration in memory, with the plaintext
  credentials for a region.
-/
def standIn (name : String) : Converter (Adapter Fleet) Fleet where
  name := name
  convert config credentials := fun f =>
    let (access, f) := credentials.accessKey config f
    let (secret, f) := credentials.secretKey config f
    let config := { config with region := access ++ "|" ++ secret }
    match Fleet.openMemory config f with
    | (.ok a, f) => (.ok (some a), f)
    | (.error e, f) => (.error e, f)

end Converter

end StorageRouting
