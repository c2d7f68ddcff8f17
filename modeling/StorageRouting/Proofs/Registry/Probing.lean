import Mathlib.Data.List.Basic
import StorageRouting.Proofs.Registry.Operation
import StorageRouting.Registry.Health

/-
  Probes that go on at the same time.  Each takes turns, in any
  order with those of the others, and ends at the first of its
  turns at which its backend has answered or its time has elapsed.
  When all have ended there is a report, which tells of every
  backend what came of its own probe.

  Key definitions include:
    * `ProbeTurn`
    * `Probing`
    * `Gathering`
    * `HealthReport.gather?`
    * `HealthReport.Prober.turns`
    * `HealthReport.TellsOf`

  Main statements:
    * `Gathering.run_eq_map`
    * `Probing.outcome?_run`
    * `HealthReport.gather?_eq_none_iff`
    * `HealthReport.tellsOf_of_gather?`
    * `HealthReport.gather?_turns`
-/

------------------------------------------------------------
-- Turns
------------------------------------------------------------

namespace StorageRouting

/-
  One turn of the probe of a backend: the moment, what the backend
  has answered by then, and whether the time for an answer has
  elapsed.
-/
structure ProbeTurn where
  backend : String
  now : Moment
  answer : Option (Except Error Unit)
  elapsed : Bool

namespace ProbeTurn

/-
  What comes of a probe at a turn, if it ends there.  An answer
  counts even if the time has elapsed; without one nothing comes
  of the probe.
-/
def end? (t : ProbeTurn) : Option (Option (Except Error Unit)) :=
  match t.answer with
  | some answer => some (some answer)
  | none => if t.elapsed then some none else none

/- The turns of the probe of one backend. -/
def own
    (name : String)
    (turns : List ProbeTurn) : List ProbeTurn :=
  turns.filter (fun t => t.backend == name)

/- What comes of the probe of a backend, if it ends at all. -/
def outcome?
    (name : String)
    (turns : List ProbeTurn) : Option (Option (Except Error Unit)) :=
  (own name turns).findSome? end?

variable {name : String} {t : ProbeTurn} (turns : List ProbeTurn)

theorem own_cons_of_eq
    (h : t.backend = name) :
    own name (t :: turns) = t :: own name turns :=
  List.filter_cons_of_pos (beq_iff_eq.mpr h)

theorem own_cons_of_ne
    (h : t.backend ≠ name) :
    own name (t :: turns) = own name turns := by
  apply List.filter_cons_of_neg
  rwa [beq_iff_eq]

end ProbeTurn

/-
  How far a probe has come: it has had no turn, it waits since its
  first one, or something came of it after some milliseconds.
-/
inductive ProbeStage where
| idle : ProbeStage
| waiting (since : Moment) : ProbeStage
| ended
    (latency : Nat)
    (outcome : Option (Except Error Unit)) : ProbeStage

namespace ProbeStage

/- A turn of a probe that was begun at a moment. -/
def go
    (since : Moment)
    (t : ProbeTurn) : ProbeStage :=
  match t.end? with
  | some outcome => .ended (since.millisecondsUntil t.now) outcome
  | none => .waiting since

/- One turn; a probe that has ended stays as it is. -/
def take
    (stage : ProbeStage)
    (t : ProbeTurn) : ProbeStage :=
  match stage with
  | .idle => go t.now t
  | .waiting since => go since t
  | .ended latency outcome => .ended latency outcome

/- What came of a probe, if it has ended. -/
def outcome? :
    ProbeStage → Option (Option (Except Error Unit))
| .ended _ outcome => some outcome
| _ => none

theorem outcome?_take
    (stage : ProbeStage)
    (t : ProbeTurn) :
    (stage.take t).outcome? = stage.outcome?.or t.end? := by
  have hGo (since : Moment) : (go since t).outcome? = t.end? := by
    unfold go
    cases t.end? <;> rfl
  cases stage with
  | idle => exact hGo t.now
  | waiting since => exact hGo since
  | ended latency outcome => rfl

end ProbeStage

end StorageRouting

------------------------------------------------------------
-- Probes
------------------------------------------------------------

namespace StorageRouting

/- The probe of a backend that is under way. -/
structure Probing (A : Type) where
  name : String
  adapter : A
  stage : ProbeStage

namespace Probing

variable {A : Type}

/- A turn of some probe, which may be another one. -/
def take
    (x : Probing A)
    (t : ProbeTurn) : Probing A :=
  if t.backend = x.name then { x with stage := x.stage.take t }
  else x

/- Turns of all probes. -/
def run
    (x : Probing A)
    (turns : List ProbeTurn) : Probing A :=
  turns.foldl take x

theorem take_of_other
    {x : Probing A}
    {t : ProbeTurn}
    (h : t.backend ≠ x.name) : x.take t = x :=
  if_neg h

theorem name_take
    (x : Probing A)
    (t : ProbeTurn) : (x.take t).name = x.name := by
  unfold take
  split <;> rfl

theorem adapter_take
    (x : Probing A)
    (t : ProbeTurn) : (x.take t).adapter = x.adapter := by
  unfold take
  split <;> rfl

variable (turns : List ProbeTurn)

theorem name_run (x : Probing A) : (x.run turns).name = x.name := by
  induction turns generalizing x with
  | nil => rfl
  | cons t rest ih => exact (ih (x.take t)).trans (x.name_take t)

theorem adapter_run (x : Probing A) :
    (x.run turns).adapter = x.adapter := by
  induction turns generalizing x with
  | nil => rfl
  | cons t rest ih => exact (ih (x.take t)).trans (x.adapter_take t)

/- A probe comes to where its own turns alone bring it. -/
theorem run_own (x : Probing A) :
    x.run turns = x.run (ProbeTurn.own x.name turns) := by
  induction turns generalizing x with
  | nil => rfl
  | cons t rest ih =>
      have hRest := ih (x.take t)
      rw [name_take] at hRest
      change (x.take t).run rest = _
      rw [hRest]
      by_cases hMine : t.backend = x.name
      · rw [ProbeTurn.own_cons_of_eq rest hMine]
        rfl
      · rw [ProbeTurn.own_cons_of_ne rest hMine, take_of_other hMine]

/- What comes of a probe is what its own turns say. -/
theorem outcome?_run (x : Probing A) :
    (x.run turns).stage.outcome? =
      x.stage.outcome?.or (ProbeTurn.outcome? x.name turns) := by
  induction turns generalizing x with
  | nil => exact (Option.or_none).symm
  | cons t rest ih =>
      have hRest := ih (x.take t)
      rw [name_take] at hRest
      change ((x.take t).run rest).stage.outcome? = _
      rw [hRest]
      unfold ProbeTurn.outcome?
      by_cases hMine : t.backend = x.name
      · rw [ProbeTurn.own_cons_of_eq rest hMine, take, if_pos hMine,
          ProbeStage.outcome?_take, Option.or_assoc,
          List.findSome?_cons]
        cases t.end? <;> rfl
      · rw [ProbeTurn.own_cons_of_ne rest hMine, take_of_other hMine]

end Probing

end StorageRouting

------------------------------------------------------------
-- Gathering
------------------------------------------------------------

namespace StorageRouting

namespace HealthReport

variable {A σ : Type}

/- The entry of a backend, of whose probe something came. -/
def Prober.entry
    (p : Prober A σ)
    (primary name : String)
    (a : A)
    (latency : Nat)
    (outcome : Option (Except Error Unit)) : BackendHealth where
  name := name
  kind := p.kind a
  primary := name == primary
  latency := latency
  error := errorText p.timeout outcome

end HealthReport

open HealthReport (Prober) in
/- The entry of a probe that has ended. -/
def Probing.health?
    {A σ : Type}
    (p : Prober A σ)
    (primary : String)
    (x : Probing A) : Option BackendHealth :=
  match x.stage with
  | .ended latency outcome =>
      some (p.entry primary x.name x.adapter latency outcome)
  | _ => none

/- Probes that are under way, in order of their names. -/
abbrev Gathering (A : Type) :=
  List (Probing A)

namespace Gathering

variable {A σ : Type}

/- One probe for every backend, none of which has had a turn. -/
def begin (r : Registry A) : Gathering A :=
  r.adapters.entries.map (fun e => ⟨e.1, e.2, .idle⟩)

/- One turn of one of the probes. -/
def take
    (g : Gathering A)
    (t : ProbeTurn) : Gathering A :=
  g.map (fun x => x.take t)

/- Turns of all probes. -/
def run
    (g : Gathering A)
    (turns : List ProbeTurn) : Gathering A :=
  turns.foldl take g

/- The report, when every probe has ended. -/
def report?
    (p : HealthReport.Prober A σ)
    (primary : String)
    (g : Gathering A) : Option HealthReport :=
  (g.mapM (Probing.health? p primary)).map HealthReport.mk

/- The probes do not get into each other's way. -/
theorem run_eq_map
    (g : Gathering A)
    (turns : List ProbeTurn) :
    g.run turns = g.map (fun x => x.run turns) := by
  induction turns generalizing g with
  | nil => exact (List.map_id g).symm
  | cons t rest ih =>
      change (g.take t).run rest = _
      rw [ih, take, List.map_map]
      rfl

end Gathering

namespace HealthReport

variable {A σ : Type}

/- The report that probes give when they have taken turns. -/
def gather?
    (p : Prober A σ)
    (r : Registry A)
    (turns : List ProbeTurn) : Option HealthReport :=
  ((Gathering.begin r).run turns).report? p r.primary

/-
  The turns when backends are probed one after the other: a probe
  begins, and when it comes back it ends.
-/
def Prober.turns (p : Prober A σ) :
    List (String × A) → σ → List ProbeTurn
| [], _ => []
| (name, a) :: rest, before =>
    let (outcome, s) := p.probe a before
    ⟨name, p.now before, none, false⟩ ::
      ⟨name, p.now s, outcome, outcome.isNone⟩ :: p.turns rest s

end HealthReport

end StorageRouting

------------------------------------------------------------
-- Entries
------------------------------------------------------------

namespace StorageRouting

namespace HealthReport

variable {A σ : Type} (p : Prober A σ)

/- Nothing is wrong exactly with what answered that it is well. -/
theorem errorText_eq_none_iff
    {timeout : Timeout}
    {outcome : Option (Except Error Unit)} :
    errorText timeout outcome = none ↔ outcome = some (.ok ()) := by
  rcases outcome with _ | e | u <;> simp [errorText]

theorem Prober.status_entry_eq_up_iff
    {primary name : String}
    {a : A}
    {latency : Nat}
    {outcome : Option (Except Error Unit)} :
    (p.entry primary name a latency outcome).status = .up ↔
      outcome = some (.ok ()) := by
  rw [← errorText_eq_none_iff, BackendHealth.status]
  split
  · rename_i h
    exact iff_of_true rfl (Option.isNone_iff_eq_none.mp h)
  · rename_i h
    exact iff_of_false nofun
      (fun hNone => h (Option.isNone_iff_eq_none.mpr hNone))

/- All backends are up. -/
theorem status_eq_up_iff (r : HealthReport) :
    r.status = .up ↔ ∀ b ∈ r.backends, b.status = .up := by
  rw [status]
  split
  · rename_i h
    refine iff_of_true rfl (fun b hb => ?_)
    exact beq_iff_eq.mp (List.all_eq_true.mp h b hb)
  · rename_i h
    refine iff_of_false nofun (fun hAll => h ?_)
    exact List.all_eq_true.mpr
      (fun b hb => beq_iff_eq.mpr (hAll b hb))

end HealthReport

namespace Probing

open HealthReport (Prober)

variable {A σ : Type} (p : Prober A σ) (primary : String)

theorem health?_eq_none_iff {x : Probing A} :
    x.health? p primary = none ↔ x.stage.outcome? = none := by
  rcases x with ⟨name, a, _ | since | ⟨latency, outcome⟩⟩ <;>
    simp [health?, ProbeStage.outcome?]

variable {p primary}

theorem exists_of_health?
    {x : Probing A}
    {b : BackendHealth}
    (h : x.health? p primary = some b) :
    ∃ latency outcome,
      x.stage.outcome? = some outcome ∧
        b = p.entry primary x.name x.adapter latency outcome := by
  rcases x with ⟨name, a, _ | since | ⟨latency, outcome⟩⟩
  · cases h
  · cases h
  · exact ⟨latency, outcome, rfl, (Option.some.inj h).symm⟩

end Probing

end StorageRouting

------------------------------------------------------------
-- Reports
------------------------------------------------------------

namespace StorageRouting

namespace HealthReport

variable {A σ : Type}

/-
  A report that tells of the turns of probes: it has one entry for
  every backend of the registry, in order of name, which says what
  came of the probe of that backend.
-/
structure TellsOf
    (p : Prober A σ)
    (r : Registry A)
    (turns : List ProbeTurn)
    (report : HealthReport) : Prop where
  names : report.backends.map BackendHealth.name = r.backends
  ascending :
    (report.backends.map BackendHealth.name).Pairwise (· < ·)
  kind :
    ∀ b ∈ report.backends,
      ∃ a, r.get? b.name = some a ∧ b.kind = p.kind a
  primary_iff :
    ∀ b ∈ report.backends, b.primary = true ↔ b.name = r.primary
  up_iff :
    ∀ b ∈ report.backends,
      b.status = .up ↔
        ProbeTurn.outcome? b.name turns = some (some (.ok ()))
  up : ∀ b ∈ report.backends, b.status = .up → b.error = none
  failed :
    ∀ b ∈ report.backends, ∀ e,
      ProbeTurn.outcome? b.name turns = some (some (.error e)) →
        b.status = .down ∧ b.error = some e.message
  elapsed :
    ∀ b ∈ report.backends,
      ProbeTurn.outcome? b.name turns = some none →
        b.status = .down ∧ b.error = some p.timeout.elapsed
  status_iff :
    report.status = .up ↔ ∀ b ∈ report.backends, b.status = .up

/- Values are found for all elements if each has one. -/
theorem mapM_eq_some_iff
    {α β : Type}
    {f : α → Option β}
    {xs : List α}
    {ys : List β} :
    xs.mapM f = some ys ↔ xs.map f = ys.map some := by
  induction xs generalizing ys with
  | nil => cases ys <;> simp
  | cons x rest ih =>
      rw [List.mapM_cons]
      cases ys with
      | nil => cases f x <;> cases rest.mapM f <;> simp
      | cons y ys =>
          rw [List.map_cons, List.map_cons, List.cons.injEq, ← ih]
          cases f x <;> cases rest.mapM f <;> simp

theorem mapM_eq_none_iff
    {α β : Type}
    {f : α → Option β}
    {xs : List α} :
    xs.mapM f = none ↔ ∃ x ∈ xs, f x = none := by
  induction xs with
  | nil => simp
  | cons x rest ih =>
      rw [List.mapM_cons]
      cases hHead : f x <;> cases hRest : rest.mapM f <;>
        simp [hHead, hRest, ← ih]

/- The entry of a backend when its probe has taken turns. -/
def settled?
    (p : Prober A σ)
    (r : Registry A)
    (turns : List ProbeTurn)
    (e : String × A) : Option BackendHealth :=
  ((Probing.mk e.1 e.2 .idle).run turns).health? p r.primary

variable
  {p : Prober A σ}
  {r : Registry A}
  {turns : List ProbeTurn}

theorem settled?_eq_none_iff {e : String × A} :
    settled? p r turns e = none ↔
      ProbeTurn.outcome? e.1 turns = none := by
  rw [settled?, Probing.health?_eq_none_iff, Probing.outcome?_run]
  exact Iff.rfl

theorem exists_of_settled?
    {e : String × A}
    {b : BackendHealth}
    (h : settled? p r turns e = some b) :
    ∃ latency outcome,
      ProbeTurn.outcome? e.1 turns = some outcome ∧
        b = p.entry r.primary e.1 e.2 latency outcome := by
  rcases Probing.exists_of_health? h with
    ⟨latency, outcome, hOutcome, hEntry⟩
  rw [Probing.outcome?_run] at hOutcome
  rw [Probing.name_run, Probing.adapter_run] at hEntry
  exact ⟨latency, outcome, hOutcome, hEntry⟩

/- The entry of a backend depends on no turns but its own. -/
theorem settled?_own
    {turns' : List ProbeTurn}
    {e : String × A}
    (h : ProbeTurn.own e.1 turns = ProbeTurn.own e.1 turns') :
    settled? p r turns e = settled? p r turns' e := by
  unfold settled?
  rw [Probing.run_own turns, Probing.run_own turns']
  exact
    congrArg
      (fun own => Probing.health? p r.primary (Probing.run _ own)) h

theorem gather?_eq_some_iff {report : HealthReport} :
    gather? p r turns = some report ↔
      r.adapters.entries.map (settled? p r turns) =
        report.backends.map some := by
  have hSlots :
      (Gathering.begin r).run turns =
        r.adapters.entries.map
          (fun e => (Probing.mk e.1 e.2 .idle).run turns) := by
    rw [Gathering.run_eq_map, Gathering.begin, List.map_map]
    rfl
  have hEntries :
      ((Gathering.begin r).run turns).map
          (Probing.health? p r.primary) =
        r.adapters.entries.map (settled? p r turns) := by
    rw [hSlots, List.map_map]
    rfl
  rw [gather?, Gathering.report?, Option.map_eq_some_iff,
    ← hEntries]
  constructor
  · rintro ⟨bs, hAll, rfl⟩
    exact mapM_eq_some_iff.mp hAll
  · intro hAll
    exact ⟨report.backends, mapM_eq_some_iff.mpr hAll, rfl⟩

/-
  There is a report as soon as every probe has ended, however the
  probes took turns.
-/
theorem gather?_eq_none_iff :
    gather? p r turns = none ↔
      ∃ name ∈ r.backends, ProbeTurn.outcome? name turns = none := by
  rw [gather?, Gathering.report?, Option.map_eq_none_iff,
    mapM_eq_none_iff, Gathering.run_eq_map, Gathering.begin,
    Registry.backends, Dictionary.keys]
  simp only [List.map_map, List.mem_map, Function.comp_apply,
    exists_exists_and_eq_and]
  exact
    exists_congr (fun e => and_congr_right (fun _ =>
      settled?_eq_none_iff))

theorem map_name_of_settled?
    {entries : List (String × A)}
    {bs : List BackendHealth}
    (h : entries.map (settled? p r turns) = bs.map some) :
    bs.map BackendHealth.name = entries.map Prod.fst := by
  induction entries generalizing bs with
  | nil =>
      cases bs with
      | nil => rfl
      | cons b rest => cases h
  | cons e rest ih =>
      cases bs with
      | nil => cases h
      | cons b bs =>
          rw [List.map_cons, List.map_cons, List.cons.injEq] at h
          rcases exists_of_settled? h.1 with ⟨_, _, _, rfl⟩
          rw [List.map_cons, List.map_cons, ih h.2]
          rfl

theorem exists_of_mem_gather?
    {report : HealthReport}
    (h : gather? p r turns = some report)
    {b : BackendHealth}
    (hb : b ∈ report.backends) :
    ∃ e ∈ r.adapters.entries, settled? p r turns e = some b := by
  rw [gather?_eq_some_iff] at h
  have hSome : some b ∈ report.backends.map some :=
    List.mem_map_of_mem hb
  rw [← h] at hSome
  exact List.mem_map.mp hSome

/- A report tells what came of each probe. -/
theorem tellsOf_of_gather?
    {report : HealthReport}
    (h : gather? p r turns = some report) :
    report.TellsOf p r turns := by
  have hNames :
      report.backends.map BackendHealth.name = r.backends :=
    map_name_of_settled? (gather?_eq_some_iff.mp h)
  have hEach (b : BackendHealth) (hb : b ∈ report.backends) :
      ∃ a latency outcome,
        r.get? b.name = some a ∧
          ProbeTurn.outcome? b.name turns = some outcome ∧
          b = p.entry r.primary b.name a latency outcome := by
    rcases exists_of_mem_gather? h hb with ⟨⟨name, a⟩, hEntry, hb⟩
    rcases exists_of_settled? hb with
      ⟨latency, outcome, hOutcome, rfl⟩
    exact
      ⟨a, latency, outcome, Dictionary.get?_eq_some_iff.mpr hEntry,
        hOutcome, rfl⟩
  refine
    { names := hNames
      ascending := ?_
      kind := ?_
      primary_iff := ?_
      up_iff := ?_
      up := ?_
      failed := ?_
      elapsed := ?_
      status_iff := report.status_eq_up_iff }
  · rw [hNames, Registry.backends, Dictionary.keys]
    exact List.pairwise_map.mpr r.adapters.ordered
  · intro b hb
    rcases hEach b hb with ⟨a, _, _, hFound, _, hEntry⟩
    exact ⟨a, hFound, by rw [hEntry]; rfl⟩
  · intro b hb
    rcases hEach b hb with ⟨_, _, _, _, _, hEntry⟩
    rw [hEntry]
    exact beq_iff_eq
  · intro b hb
    rcases hEach b hb with ⟨_, _, outcome, _, hOutcome, hEntry⟩
    rw [hOutcome, Option.some.injEq, hEntry]
    exact p.status_entry_eq_up_iff
  · intro b hb hUp
    rcases hEach b hb with ⟨_, _, outcome, _, _, hEntry⟩
    rw [hEntry] at hUp ⊢
    exact
      errorText_eq_none_iff.mpr (p.status_entry_eq_up_iff.mp hUp)
  · intro b hb e hFailed
    rcases hEach b hb with ⟨_, _, outcome, _, hOutcome, hEntry⟩
    rw [hOutcome, Option.some.injEq] at hFailed
    rw [hEntry, hFailed]
    exact ⟨rfl, rfl⟩
  · intro b hb hElapsed
    rcases hEach b hb with ⟨_, _, outcome, _, hOutcome, hEntry⟩
    rw [hOutcome, Option.some.injEq] at hElapsed
    rw [hEntry, hElapsed]
    exact ⟨rfl, rfl⟩

/-
  Whatever the other probes do: reports that come of the same turns
  of the probe of a backend have the same entry for it.
-/
theorem entry_eq_of_own
    {turns' : List ProbeTurn}
    {report report' : HealthReport}
    (h : gather? p r turns = some report)
    (h' : gather? p r turns' = some report')
    {b b' : BackendHealth}
    (hb : b ∈ report.backends)
    (hb' : b' ∈ report'.backends)
    (hName : b.name = b'.name)
    (hOwn :
      ProbeTurn.own b.name turns = ProbeTurn.own b.name turns') :
    b = b' := by
  rcases exists_of_mem_gather? h hb with ⟨e, hMem, hSettled⟩
  rcases exists_of_mem_gather? h' hb' with ⟨e', hMem', hSettled'⟩
  have hE : b.name = e.1 := by
    rcases exists_of_settled? hSettled with ⟨_, _, _, rfl⟩
    rfl
  have hE' : b'.name = e'.1 := by
    rcases exists_of_settled? hSettled' with ⟨_, _, _, rfl⟩
    rfl
  have hSame : e = e' := by
    have hKeys : e.1 = e'.1 := hE.symm.trans (hName.trans hE')
    have hFound := Dictionary.get?_eq_some_iff.mpr hMem
    rw [hKeys, Dictionary.get?_eq_some_iff.mpr hMem'] at hFound
    exact Prod.ext hKeys (Option.some.inj hFound).symm
  subst hSame
  rw [hE] at hOwn
  rw [settled?_own hOwn, hSettled'] at hSettled
  exact (Option.some.inj hSettled).symm

end HealthReport

end StorageRouting

------------------------------------------------------------
-- One after the Other
------------------------------------------------------------

namespace StorageRouting

namespace HealthReport

variable {A σ : Type} (p : Prober A σ)

theorem Prober.backend_of_mem_turns
    {entries : List (String × A)}
    {s : σ}
    {t : ProbeTurn}
    (h : t ∈ p.turns entries s) :
    t.backend ∈ entries.map Prod.fst := by
  induction entries generalizing s with
  | nil => cases h
  | cons e rest ih =>
      rcases e with ⟨name, a⟩
      rw [turns, List.mem_cons, List.mem_cons] at h
      rw [List.map_cons, List.mem_cons]
      rcases h with rfl | rfl | h
      · exact .inl rfl
      · exact .inl rfl
      · exact .inr (ih h)

/- A probe that begins and comes back has ended. -/
theorem settled?_of_begin_end
    (r : Registry A)
    (name : String)
    (a : A)
    (begun ended : Moment)
    (outcome : Option (Except Error Unit)) :
    settled? p r
        [⟨name, begun, none, false⟩,
          ⟨name, ended, outcome, outcome.isNone⟩] (name, a) =
      some
        (p.entry r.primary name a (begun.millisecondsUntil ended)
          outcome) := by
  have hBegin :
      (Probing.mk name a .idle).take ⟨name, begun, none, false⟩ =
        ⟨name, a, .waiting begun⟩ :=
    if_pos rfl
  have hEnd :
      (Probing.mk name a (.waiting begun)).take
          ⟨name, ended, outcome, outcome.isNone⟩ =
        ⟨name, a,
          .ended (begun.millisecondsUntil ended) outcome⟩ := by
    rw [Probing.take, if_pos rfl]
    cases outcome <;> rfl
  rw [settled?, Probing.run, List.foldl_cons, hBegin,
    List.foldl_cons, hEnd]
  rfl

/-
  Backends that are probed one after the other are entered as if
  their probes had gone on at the same time.
-/
theorem map_settled?_turns
    (r : Registry A)
    {entries : List (String × A)}
    (hNames : (entries.map Prod.fst).Nodup)
    (s : σ) :
    entries.map (settled? p r (p.turns entries s)) =
      (probeAll p r.primary entries s).1.map some := by
  induction entries generalizing s with
  | nil => rfl
  | cons e rest ih =>
      rcases e with ⟨name, a⟩
      rw [List.map_cons, List.nodup_cons] at hNames
      rcases hProbe : p.probe a s with ⟨outcome, s'⟩
      let first : ProbeTurn := ⟨name, p.now s, none, false⟩
      let last : ProbeTurn :=
        ⟨name, p.now s', outcome, outcome.isNone⟩
      have hTurns :
          p.turns ((name, a) :: rest) s =
            first :: last :: p.turns rest s' := by
        simp only [Prober.turns, hProbe]
        rfl
      have hOthers : ProbeTurn.own name (p.turns rest s') = [] := by
        apply List.filter_eq_nil_iff.mpr
        intro t ht hMine
        rw [beq_iff_eq] at hMine
        exact hNames.1 (hMine ▸ p.backend_of_mem_turns ht)
      have hHead :
          settled? p r (first :: last :: p.turns rest s') (name, a) =
            settled? p r [first, last] (name, a) := by
        apply settled?_own
        have hAppend :
            ProbeTurn.own name ([first, last] ++ p.turns rest s') =
              ProbeTurn.own name [first, last] ++
                ProbeTurn.own name (p.turns rest s') :=
          List.filter_append _ _
        rwa [hOthers, List.append_nil] at hAppend
      have hTail :
          rest.map
              (settled? p r (first :: last :: p.turns rest s')) =
            rest.map (settled? p r (p.turns rest s')) := by
        apply List.map_congr_left
        intro e he
        have hName : e.1 ∈ rest.map Prod.fst := List.mem_map_of_mem he
        have hNe : name ≠ e.1 := fun hSame =>
          hNames.1 (hSame ▸ hName)
        apply settled?_own
        rw [ProbeTurn.own_cons_of_ne _ hNe,
          ProbeTurn.own_cons_of_ne _ hNe]
      rw [hTurns, List.map_cons, hHead, hTail, ih hNames.2 s',
        settled?_of_begin_end]
      simp only [probeAll, hProbe, List.map_cons]
      rfl

/- The health of a registry is the report on these turns. -/
theorem gather?_turns
    (r : Registry A)
    (s : σ) :
    gather? p r (p.turns r.adapters.entries s) =
      some (check p r s).1 := by
  have hOrdered :
      (r.adapters.entries.map Prod.fst).Pairwise (· < ·) :=
    List.pairwise_map.mpr r.adapters.ordered
  have hNames : (r.adapters.entries.map Prod.fst).Nodup :=
    hOrdered.imp fun hLess => String.ne_of_lt hLess
  rw [gather?_eq_some_iff]
  exact map_settled?_turns p r hNames s

end HealthReport

end StorageRouting
