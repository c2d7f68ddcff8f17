import StorageRouting.Console.Session
import StorageRouting.Console.Table

/-
  The command that shows the backends.

  Key definitions include:
    * `BackendEntry`
    * `BackendsReport`
    * `BackendsReport.of`
    * `BackendsReport.code`
    * `BackendsReport.run`
-/

------------------------------------------------------------
-- Reports
------------------------------------------------------------

namespace StorageRouting

/- What is shown of a backend; its health when it was probed. -/
structure BackendEntry where
  name : String
  config : BackendConfig
  primary : Bool
  health : Option BackendHealth

/- All backends, and their health when they were probed. -/
structure BackendsReport where
  primary : String
  strict : Bool
  status : Option HealthStatus
  backends : List BackendEntry

namespace BackendsReport

variable {σ : Type}

/- The report on a registry. -/
def of
    (r : Registry (Adapter σ))
    (health : Option HealthReport) : BackendsReport where
  primary := r.primary
  strict := r.strict
  status := health.map HealthReport.status
  backends :=
    r.adapters.entries.map (fun (name, a) =>
      { name, config := a.config, primary := name == r.primary
        health := health.bind (fun h => h.backend? name) })

/- The command fails when a backend is down. -/
def code (r : BackendsReport) : ExitCode :=
  if r.status = some .down then .networkError else .success

end BackendsReport

end StorageRouting

------------------------------------------------------------
-- Documents
------------------------------------------------------------

namespace StorageRouting

namespace BackendEntry

/- The written form of an entry. -/
def toValue (e : BackendEntry) : Value :=
  let c := e.config
  .object
    ([("name", .string e.name), ("backend_type", .string c.kind),
      ("endpoint", .string c.endpoint),
      ("region", .string c.region)] ++
      Value.optional "default_bucket"
        (c.defaultBucket.map .string) ++
      [("primary", .bool e.primary)] ++
      Value.optional "status"
        (e.health.map (fun h => .string h.status.text)) ++
      Value.optional "latency_ms"
        (e.health.map (fun h => .nat h.latency)) ++
      Value.optional "error"
        ((e.health.bind (·.error)).map .string))

end BackendEntry

namespace BackendsReport

/- The written form of a report. -/
def toValue (r : BackendsReport) : Value :=
  .object
    ([("primary", .string r.primary), ("strict", .bool r.strict)] ++
      Value.optional "status"
        (r.status.map (fun s => .string s.text)) ++
      [("backends", .array (r.backends.map BackendEntry.toValue))])

end BackendsReport

end StorageRouting

------------------------------------------------------------
-- Tables
------------------------------------------------------------

namespace StorageRouting

namespace BackendEntry

/- The cells that tell of the health of a backend. -/
def healthCells
    (f : Formatter)
    (h : BackendHealth) : List String :=
  [f.paintStatus h.status.text (h.status == .up),
    toString h.latency ++ "ms"]

/- The row of a backend. -/
def row
    (f : Formatter)
    (e : BackendEntry) : List String :=
  [f.paint .name e.name, e.config.kind,
    f.paint .url e.config.endpoint,
    e.config.defaultBucket.getD "-",
    if e.primary then "*" else ""] ++
    (match e.health with
    | some h => healthCells f h
    | none => [])

/- The warning about a backend that is down. -/
def warning
    (f : Formatter)
    (e : BackendEntry) : Screen :=
  match e.health.bind (·.error) with
  | some error => f.warning (e.name ++ ": " ++ error)
  | none => []

end BackendEntry

namespace BackendsReport

/- The header of the table. -/
def header (r : BackendsReport) : List String :=
  ["NAME", "TYPE", "ENDPOINT", "DEFAULT BUCKET", "PRIMARY"] ++
    (if r.status.isSome then ["STATUS", "LATENCY"] else [])

/- What is said when unknown keys are refused. -/
def strictText : String :=
  "Strict routing: unknown backend keys are rejected"

/- A report as a table with remarks. -/
def screen
    (f : Formatter)
    (r : BackendsReport) : Screen :=
  if r.backends.isEmpty then f.warning "No backends registered"
  else
    f.line
        (Table.text ⟨r.header, r.backends.map (BackendEntry.row f)⟩) ++
      r.backends.flatMap (BackendEntry.warning f) ++
      (if r.strict then f.line strictText else [])

end BackendsReport

end StorageRouting

------------------------------------------------------------
-- The Command
------------------------------------------------------------

namespace StorageRouting

namespace BackendsReport

variable {σ : Type}

/- Probe the backends of a session; those down are warned of. -/
def probe
    (session : Session σ)
    (timeout : Timeout) : Job σ HealthReport := do
  let report ← fun w =>
    let (report, backends) :=
      HealthReport.check (Adapter.prober session.now timeout)
        session.registry w.backends
    (some report, { w with backends })
  Job.log session.now report.warnings
  return report

/-
  Show the backends.  They are probed when that is asked for
  or set up; a probe may take so many seconds.
-/
def run
    (session : Session σ)
    (f : Formatter)
    (health : Bool)
    (seconds : Nat) : Job σ ExitCode := do
  let report ←
    if health || session.probesHealth then
      some <$> probe session (seconds * 1000000000)
    else pure none
  let r := BackendsReport.of session.registry report
  let _ ← Job.present f r.toValue (r.screen f)
  return r.code

end BackendsReport

end StorageRouting
