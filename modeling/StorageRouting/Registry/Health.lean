import StorageRouting.Log
import StorageRouting.Registry.Basic
import StorageRouting.Text.Blank
import StorageRouting.Time.Moment

/-
  Health reports: one entry for each backend of a registry.

  Key definitions include:
    * `HealthStatus`
    * `HealthReport`
    * `HealthReport.Prober`
    * `HealthReport.check`
    * `Timeout.text`
-/

------------------------------------------------------------
-- Timeouts
------------------------------------------------------------

namespace StorageRouting

/- How long a probe may take, in nanoseconds. -/
abbrev Timeout :=
  Nat

namespace Timeout

/- Five seconds. -/
def usual : Timeout :=
  5000000000

/- A number with a fraction of so many digits, without zeros. -/
def withFraction
    (whole part digits : Nat)
    (unit : String) : String :=
  if part = 0 then toString whole ++ unit
  else
    let cs := (Text.padZeros digits part).toList
    let kept := (cs.reverse.dropWhile (· == '0')).reverse
    toString whole ++ "." ++ String.ofList kept ++ unit

/- A duration in its largest unit that is not below one. -/
def text (t : Timeout) : String :=
  if 1000000000 ≤ t then
    withFraction (t / 1000000000) (t % 1000000000) 9 "s"
  else if 1000000 ≤ t then
    withFraction (t / 1000000) (t % 1000000) 6 "ms"
  else if 1000 ≤ t then withFraction (t / 1000) (t % 1000) 3 "µs"
  else toString t ++ "ns"

/- What is said of a probe that did not answer in time. -/
def elapsed (t : Timeout) : String :=
  "Health check timed out after " ++ t.text

end Timeout

end StorageRouting

------------------------------------------------------------
-- Reports
------------------------------------------------------------

namespace StorageRouting

/- Whether a backend answers. -/
inductive HealthStatus where
| up : HealthStatus
| down : HealthStatus
deriving DecidableEq, Repr

namespace HealthStatus

/- The status in words. -/
def text : HealthStatus → String
| .up => "UP"
| .down => "DOWN"

end HealthStatus

/-
  The health of one backend, and how many milliseconds its
  probe took.  An error means that it is down.
-/
structure BackendHealth where
  name : String
  kind : String
  primary : Bool
  latency : Nat
  error : Option String
deriving DecidableEq, Repr

namespace BackendHealth

/- The status of a backend. -/
def status (b : BackendHealth) : HealthStatus :=
  if b.error.isNone then .up else .down

/- What is logged about a backend that is down. -/
def warning? (b : BackendHealth) : Option LogEntry :=
  b.error.map (fun error =>
    { level := .warning
      message := "Backend health check failed"
      fields := [("backend", b.name), ("error", error)] })

end BackendHealth

/- The health of all backends. -/
structure HealthReport where
  backends : List BackendHealth
deriving DecidableEq, Repr

namespace HealthReport

variable {A σ : Type}

/- All backends are up. -/
def status (r : HealthReport) : HealthStatus :=
  if r.backends.all (fun b => b.status == .up) then .up else .down

/- The entry of a backend. -/
def backend?
    (r : HealthReport)
    (name : String) : Option BackendHealth :=
  r.backends.find? (fun b => b.name == name)

/- What is logged about the backends that are down. -/
def warnings (r : HealthReport) : List LogEntry :=
  r.backends.filterMap BackendHealth.warning?

/- What a probe says is wrong, if something is. -/
def errorText
    (timeout : Timeout) :
    Option (Except Error Unit) → Option String
| some (.ok _) => none
| some (.error e) => some e.message
| none => some timeout.elapsed

/- How backends are probed, and how the time is told. -/
structure Prober (A σ : Type) where
  probe : A → σ → Option (Except Error Unit) × σ
  kind : A → String
  now : σ → Moment
  timeout : Timeout

/- Probe backends one after the other. -/
def probeAll
    (p : Prober A σ)
    (primary : String) :
    List (String × A) → σ → List BackendHealth × σ
| [], s => ([], s)
| (name, a) :: rest, before =>
    let (outcome, s) := p.probe a before
    let latency := (p.now before).millisecondsUntil (p.now s)
    let (entries, s) := probeAll p primary rest s
    ({ name, kind := p.kind a, primary := name == primary, latency
       error := errorText p.timeout outcome } :: entries, s)

/- The health of all backends of a registry. -/
def check
    (p : Prober A σ)
    (r : Registry A)
    (s : σ) : HealthReport × σ :=
  let (backends, s) := probeAll p r.primary r.adapters.entries s
  (⟨backends⟩, s)

end HealthReport

end StorageRouting
