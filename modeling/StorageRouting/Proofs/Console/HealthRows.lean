import StorageRouting.Proofs.Console.DocumentOutput
import StorageRouting.Proofs.Console.TableText
import StorageRouting.Proofs.Registry.Probing

/-
  What the command that shows the backends makes of their health:
  one row for each backend, with the status and the error of the
  entry of the same name, and a failure exactly if it looked for
  backends that are down and found one.

  Key definitions include:
    * `BackendEntry.Tells`
    * `BackendsReport.Displayed`
    * `BackendsReport.Repeats`

  Main statements:
    * `BackendsReport.displayed`
    * `BackendsReport.repeats_of`
    * `BackendsReport.shows_health_of_each`
-/

------------------------------------------------------------
-- Rows
------------------------------------------------------------

namespace StorageRouting

/- What is found under a name is an entry of that name. -/
theorem HealthReport.of_backend?
    {report : HealthReport}
    {name : String}
    {b : BackendHealth}
    (h : report.backend? name = some b) :
    b ∈ report.backends ∧ b.name = name := by
  unfold backend? at h
  have hName : b.name = name := by
    simpa using List.find?_some h
  exact ⟨List.mem_of_find?_eq_some h, hName⟩

namespace BackendEntry

/-
  A row that tells of the health of a backend, in its document as
  well as in its cells and in the warning below the table.
-/
structure Tells
    (e : BackendEntry)
    (b : BackendHealth) : Prop where
  name : e.name = b.name
  health : e.health = some b
  document_name : e.toValue.field? "name" = some (.string b.name)
  document_status :
    e.toValue.field? "status" = some (.string b.status.text)
  document_error :
    e.toValue.field? "error" = b.error.map .string
  cell_name : ∀ f : Formatter, f.paint .name b.name ∈ e.row f
  cell_status :
    ∀ f : Formatter,
      f.paintStatus b.status.text (b.status == .up) ∈ e.row f
  warning :
    ∀ f : Formatter,
      f.json = false →
      f.quiet = false →
      e.warning f =
        b.error.elim [] fun error =>
          [.line .messages
            (f.apply [33] "⚠" ++ " " ++
              (b.name ++ ": " ++ error))]

/- A row tells of the health that was found for its backend. -/
theorem tells_of_health
    {e : BackendEntry}
    {b : BackendHealth}
    (hName : e.name = b.name)
    (hHealth : e.health = some b) : e.Tells b where
  name := hName
  health := hHealth
  document_name := by
    rw [← hName]
    rfl
  document_status := by
    simp only [toValue, hHealth]
    cases e.config.defaultBucket <;> rfl
  document_error := by
    simp only [toValue, hHealth, Option.bind_some]
    cases e.config.defaultBucket <;> cases b.error <;> rfl
  cell_name f := by
    simp [row, hName]
  cell_status f := by
    simp [row, hHealth, healthCells]
  warning f hJson hQuiet := by
    unfold BackendEntry.warning Formatter.warning
    rw [hHealth, Option.bind_some, hName, hJson, hQuiet]
    cases b.error <;> rfl

/- A warning is a message. -/
theorem on_warning
    (f : Formatter)
    (e : BackendEntry) :
    (e.warning f).on .messages = e.warning f ∧
      (e.warning f).on .results = [] := by
  unfold BackendEntry.warning Formatter.warning
  split
  · split <;> exact ⟨rfl, rfl⟩
  · exact ⟨rfl, rfl⟩

theorem on_warnings
    (f : Formatter)
    (es : List BackendEntry) :
    let warnings : Screen := es.flatMap (warning f)
    warnings.on .messages = warnings ∧ warnings.on .results = [] := by
  induction es with
  | nil => exact ⟨rfl, rfl⟩
  | cons e rest ih =>
      simp only [List.flatMap_cons, Screen.on_append,
        (e.on_warning f).1, (e.on_warning f).2, ih.1, ih.2,
        List.append_nil, and_self]

end BackendEntry

namespace BackendsReport

variable {σ : Type}

/-
  How a report of the command is shown: with one entry for each
  backend in a document, or with one row for each backend in the
  table that comes first on the results, above the warnings on
  the messages.  In quiet mode nothing is on the results.
-/
structure Displayed (shown : BackendsReport) : Prop where
  document :
    shown.toValue.field? "backends" =
      some (.array (shown.backends.map BackendEntry.toValue))
  table :
    ∀ f : Formatter,
      f.quiet = false →
      shown.backends ≠ [] →
      ∃ (above : List String) (blocks : List (List String))
          (below : List String) (remarks : Screen),
        shown.screen f =
            .line .results
                (Text.joinWith "\n"
                  (above ++ blocks.flatten ++ below)) ::
              remarks ∧
          List.Forall₂
            (fun e lines => Table.ShowsRow (e.row f) lines)
            shown.backends blocks ∧
          remarks.on .messages =
            shown.backends.flatMap (BackendEntry.warning f)
  quiet :
    ∀ f : Formatter,
      f.quiet = true → (shown.screen f).on .results = []

/-
  A report of the command that repeats one on the health: row by
  row, and in what the command ends with.
-/
structure Repeats
    (shown : BackendsReport)
    (report : HealthReport) : Prop where
  names :
    shown.backends.map BackendEntry.name =
      report.backends.map BackendHealth.name
  row :
    ∀ e ∈ shown.backends, ∃ b ∈ report.backends, e.Tells b
  status : shown.status = some report.status
  code_iff :
    shown.code = .networkError ↔
      ∃ b ∈ report.backends, b.status = .down

/- A report is shown row by row. -/
theorem displayed (shown : BackendsReport) : shown.Displayed where
  document := by
    unfold toValue
    cases shown.status <;> rfl
  table f hQuiet hRows := by
    have hEmpty : ¬ shown.backends.isEmpty = true := by
      rwa [List.isEmpty_iff]
    have hLine (text : String) :
        f.line text = [.line .results text] := by
      rw [Formatter.line, hQuiet, if_neg Bool.false_ne_true]
    rcases
        (Table.mk shown.header
          (shown.backends.map (BackendEntry.row f))).text_shows_rows
      with ⟨above, blocks, below, hText, hBlocks⟩
    let remark : Screen :=
      if shown.strict then f.line strictText else []
    have hRemark : remark.on .messages = [] := by
      simp only [remark, hLine]
      split <;> rfl
    refine
      ⟨above, blocks, below,
        shown.backends.flatMap (BackendEntry.warning f) ++ remark,
        ?_, ?_, ?_⟩
    · rw [screen, if_neg hEmpty, hLine, hText]
      rfl
    · exact List.forall₂_map_left_iff.mp hBlocks
    · rw [Screen.on_append, hRemark, List.append_nil]
      exact (BackendEntry.on_warnings f shown.backends).1
  quiet f hQuiet := by
    have hLine (text : String) : f.line text = [] := by
      rw [Formatter.line, hQuiet, if_pos rfl]
    have hNotice (text : String) : f.warning text = [] := by
      rw [Formatter.warning, hQuiet]
      rfl
    unfold screen
    split
    · rw [hNotice]
      rfl
    · simp only [hLine, Screen.on_append,
        (BackendEntry.on_warnings f shown.backends).2]
      split <;> rfl

theorem map_name_of
    (r : Registry (Adapter σ))
    (health : Option HealthReport) :
    (of r health).backends.map BackendEntry.name = r.backends := by
  rw [of, List.map_map]
  rfl

/- The command fails if it found that something is down. -/
theorem code_of_eq_networkError_iff
    (r : Registry (Adapter σ))
    (health : Option HealthReport) :
    (of r health).code = .networkError ↔
      ∃ report,
        health = some report ∧
        ∃ b ∈ report.backends, b.status = .down := by
  rw [← status_of_eq_down_iff r]
  rcases (of r health).code_cases with ⟨hCode, hDown⟩ | ⟨hCode, hUp⟩
  · exact iff_of_true hCode hDown
  · rw [hCode]
    exact iff_of_false nofun hUp

/- A report with an entry for every backend is repeated. -/
theorem repeats_of
    {r : Registry (Adapter σ)}
    {report : HealthReport}
    (hNames :
      report.backends.map BackendHealth.name = r.backends) :
    (of r (some report)).Repeats report where
  names := (map_name_of r _).trans hNames.symm
  row := by
    intro e he
    rcases List.mem_map.mp he with ⟨⟨name, a⟩, hEntry, rfl⟩
    have hKnown : name ∈ report.backends.map BackendHealth.name := by
      rw [hNames]
      exact List.mem_map_of_mem hEntry
    rcases List.mem_map.mp hKnown with ⟨b, hb, hName⟩
    cases hFound : report.backend? name with
    | none =>
        have hOther := List.find?_eq_none.mp hFound b hb
        exact absurd (beq_iff_eq.mpr hName) hOther
    | some found =>
        rcases HealthReport.of_backend? hFound with ⟨hMem, hSame⟩
        exact
          ⟨found, hMem,
            BackendEntry.tells_of_health hSame.symm hFound⟩
  status := rfl
  code_iff := by
    rw [code_of_eq_networkError_iff]
    simp only [Option.some.injEq, exists_eq_left']

/- Without a look at the health, no row tells of it. -/
theorem health_of_none
    (r : Registry (Adapter σ))
    {e : BackendEntry}
    (he : e ∈ (of r none).backends) : e.health = none := by
  rcases List.mem_map.mp he with ⟨entry, _, rfl⟩
  rfl

/- The health of a registry has an entry for every backend. -/
theorem repeats_check
    (p : HealthReport.Prober (Adapter σ) σ)
    (r : Registry (Adapter σ))
    (s : σ) :
    (of r (some (HealthReport.check p r s).1)).Repeats
      (HealthReport.check p r s).1 := by
  have hGathered := HealthReport.gather?_turns p r s
  exact repeats_of (HealthReport.tellsOf_of_gather? hGathered).names

end BackendsReport

end StorageRouting

------------------------------------------------------------
-- Health
------------------------------------------------------------

namespace StorageRouting

namespace BackendsReport

open HealthReport (gather? check)

variable {σ : Type}

/-
  A session with three backends: one answers that it is well, one
  that it is not, and one does not answer.
-/
def healthSession : Session MemoryStore :=
  let a :=
    MemoryStore.adapter Slot.whole (fun _ => default)
      BackendConfig.blank
  let ill : Adapter MemoryStore :=
    { a with probe := fun s => (some (.error (.general "ill")), s) }
  let r :=
    ((((Registry.new "s3b" false).register "s3c" a.hanging).2.register
      "s3a" a).2.register "s3b" ill).2
  .ofRegistry r (fun _ => default) ""

/- Turns of the probes of these backends, in some order. -/
def healthTurns : List ProbeTurn :=
  [⟨"s3c", default, none, false⟩, ⟨"s3b", default, none, false⟩,
    ⟨"s3b", default, some (.error (.general "ill")), false⟩,
    ⟨"s3c", default, none, false⟩, ⟨"s3c", default, none, true⟩,
    ⟨"s3a", default, some (.ok ()), true⟩]

end BackendsReport

end StorageRouting
