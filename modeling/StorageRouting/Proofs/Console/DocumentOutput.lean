import StorageRouting.Console.Program
import StorageRouting.Proofs.Console.Answer

/-
  What commands print when they print documents: at most one
  document on the results, and documents about errors on the
  messages, below the entries of the log.  How a command ends can
  be told from them.

  Key definitions include:
    * `Command.logged`
    * `Command.FindsDown`
    * `Command.ReachesBucket`
    * `Command.Disciplined`

  Main statements:
    * `BackendsReport.run_eq`
    * `Removal.screen_shows`
    * `Command.hasEnded_run`
    * `Command.run_prints_documents`
-/

------------------------------------------------------------
-- Reports
------------------------------------------------------------

namespace StorageRouting

namespace HealthReport

/- A report is down if one of its backends is. -/
theorem status_eq_down_iff (r : HealthReport) :
    r.status = .down ↔ ∃ b ∈ r.backends, b.status = .down := by
  have hDown (b : BackendHealth) :
      b.status = .down ↔ ¬ (b.status == .up) = true := by
    cases b.status <;> decide
  simp only [hDown]
  rw [status]
  split
  · rename_i hAll
    refine iff_of_false nofun ?_
    rintro ⟨b, hMem, hNot⟩
    exact hNot (List.all_eq_true.mp hAll b hMem)
  · rename_i hSome
    rw [List.all_eq_true] at hSome
    exact iff_of_true rfl (by simpa using hSome)

/- The warnings of the backends that are down. -/
def downEntries (r : HealthReport) : List LogEntry :=
  (r.backends.filter (fun b => b.status == .down)).map fun b =>
    { level := .warning
      message := "Backend health check failed"
      fields := [("backend", b.name), ("error", b.error.getD "")] }

theorem warnings_eq (r : HealthReport) :
    r.warnings = r.downEntries := by
  rcases r with ⟨backends⟩
  unfold warnings downEntries
  induction backends with
  | nil => rfl
  | cons b rest ih =>
      rcases b with ⟨name, kind, primary, latency, _ | error⟩
      · exact ih
      · exact congrArg (List.cons _) ih

end HealthReport

namespace BackendsReport

variable {σ : Type}

/- The health that the command finds, if it looks for it. -/
def found?
    (session : Session σ)
    (health : Bool)
    (seconds : Nat)
    (s : σ) : Option HealthReport :=
  if health || session.probesHealth then
    some
      (HealthReport.check
        (Adapter.prober session.now (seconds * 1000000000))
        session.registry s).1
  else none

/-
  The command warns of what it found, shows a report on it, and
  ends with that.
-/
theorem run_eq
    (session : Session σ)
    (f : Formatter)
    (health : Bool)
    (seconds : Nat)
    (w : World σ) :
    let found := found? session health seconds w.backends
    let r := of session.registry found
    ∃ moment after,
      run session f health seconds w = (some r.code, after) ∧
        after.screen =
          w.screen ++
            (found.elim [] HealthReport.downEntries).map
              (.log moment) ++
            (if f.json then Formatter.document r.toValue
              else r.screen f) := by
  rw [← funext HealthReport.warnings_eq]
  unfold run found? Job.present
  cases health || session.probesHealth with
  | true => exact ⟨_, _, rfl, rfl⟩
  | false =>
      refine ⟨default, _, rfl, ?_⟩
      exact congrArg (· ++ _) (List.append_nil w.screen).symm

/- The command fails if what it found is down. -/
theorem code_cases (r : BackendsReport) :
    (r.code = .networkError ∧ r.status = some .down) ∨
      (r.code = .success ∧ r.status ≠ some .down) := by
  unfold code
  split
  · rename_i h
    exact .inl ⟨rfl, h⟩
  · rename_i h
    exact .inr ⟨rfl, h⟩

theorem status_of_eq_down_iff
    (r : Registry (Adapter σ))
    (health : Option HealthReport) :
    (of r health).status = some .down ↔
      ∃ report,
        health = some report ∧
        ∃ b ∈ report.backends, b.status = .down := by
  simp only [← HealthReport.status_eq_down_iff]
  exact Option.map_eq_some_iff

end BackendsReport

end StorageRouting

------------------------------------------------------------
-- Removals
------------------------------------------------------------

namespace StorageRouting

namespace Removal

/-
  A removal is one document, with an error for each failure in
  the order of the failures.
-/
theorem screen_shows
    {f : Formatter}
    (hJson : f.json = true)
    (r : Removal) :
    (r.screen f).Shows [r.toValue] (r.failures.map failureText) where
  results := on_results_of_json hJson r
  messages := by
    rw [on_messages_of_json hJson, List.map_map, List.map_map]
    rfl
  exact_documents := by
    intro v hv
    rw [List.mem_singleton.mp hv]
    exact r.isExact_toValue

end Removal

end StorageRouting

------------------------------------------------------------
-- Warnings of Headers
------------------------------------------------------------

namespace StorageRouting

namespace Invocation

/- The warnings of the headers that no call can have. -/
def badEntries
    (headers : List (String × String)) : List LogEntry :=
  (headers.filter (fun h =>
    !(Header.isName h.1 && Header.isValue h.2))).map fun h =>
      { level := .warning
        message := "Ignoring invalid header on invocation"
        fields := [("header", Text.quoted h.1)] }

theorem headerWarnings_eq (headers : List (String × String)) :
    headerWarnings headers = badEntries headers := by
  unfold headerWarnings badEntries
  induction headers with
  | nil => rfl
  | cons h rest ih =>
      rw [List.filterMap_cons, List.filter_cons, ih]
      cases Header.isName h.1 <;> cases Header.isValue h.2 <;> rfl

end Invocation

end StorageRouting

------------------------------------------------------------
-- Discipline
------------------------------------------------------------

namespace StorageRouting

namespace Command

variable {σ : Type}

/- Whether a command prints a content instead of documents. -/
def printsContent : Command → Bool
| .get key path _ => Destination.ofArguments key path = .results
| _ => false

/- The command looks for backends that are down, and finds one. -/
def FindsDown
    (session : Session σ)
    (s : σ) : Command → Prop
| .backends health seconds =>
    ∃ report,
      BackendsReport.found? session health seconds s = some report ∧
      ∃ b ∈ report.backends, b.status = .down
| _ => False

/- The command removes keys, and finds a backend and a bucket. -/
def ReachesBucket (session : Session σ) : Command → Prop
| .remove keys bucket =>
    ∃ place,
      Session.placeOf (Removal.route session keys bucket) bucket =
        .ok place
| _ => False

/- The command lists entries that have no summary. -/
def LacksSummary
    (session : Session σ)
    (s : σ) : Command → Prop
| .list bucket keyStart recursive maxKeys =>
    (BucketListing.take
      (BucketListing.route session bucket keyStart) bucket
      { keyStart, maxKeys, token := none, recursive } s).1 =
        .ok none
| _ => False

/-
  Whether a command calls the backends: one that uploads needs a
  key and a content, and one that makes a link a time.
-/
def calls (files : FileTree) : Command → Bool
| .backends _ _ => false
| .completions _ => false
| .put file key _ _ =>
    (Upload.keyOf? file key).isSome && (files.read file).isOk
| .share _ _ expire _ => (Expiration.parse expire).isOk
| _ => true

/-
  What a command logs: a warning for each backend that it finds
  down, or one for each header that its call cannot have.
-/
def logged
    (session : Session σ)
    (w : World σ) : Command → List LogEntry
| .backends health seconds =>
    (BackendsReport.found? session health seconds w.backends).elim []
      HealthReport.downEntries
| c =>
    if c.calls w.files then Invocation.badEntries session.headers
    else []

/-
  What the documents of a command tell of how it ended, and the
  other way round.
-/
structure Disciplined
    (session : Session σ)
    (s : σ)
    (c : Command)
    (code : ExitCode)
    (documents : List Value)
    (errors : List String) : Prop where
  one_document : documents.length ≤ 1
  success :
    code = .success → documents.length = 1 ∧ errors = []
  failure :
    code ≠ .success → errors ≠ [] ∨ c.FindsDown session s
  down :
    c.FindsDown session s →
      code = .networkError ∧ documents.length = 1 ∧ errors = []
  document_of_failure :
    code ≠ .success → documents ≠ [] →
      c.FindsDown session s ∨ c.ReachesBucket session
  removal :
    ∀ keys bucket place,
      c = .remove keys bucket →
      Session.placeOf (Removal.route session keys bucket) bucket =
        .ok place →
      ∃ r : Removal,
        r.place = place ∧
        r.outcomes.map Prod.fst = keys ∧
        documents = [r.toValue] ∧
        errors = r.failures.map Removal.failureText

/-
  What the documents of a command tell of it: how it ended, unless
  it broke off.
-/
def TellsOf
    (session : Session σ)
    (s : σ)
    (c : Command)
    (documents : List Value)
    (errors : List String) : Option ExitCode → Prop
| some code =>
    ¬ c.LacksSummary session s ∧
      c.Disciplined session s code documents errors
| none => c.LacksSummary session s ∧ documents = [] ∧ errors = []

variable {session : Session σ} {c : Command}

/- Most commands answer with a document or an error. -/
theorem disciplined_of_ends
    {s : σ}
    (hUp : ¬ c.FindsDown session s)
    (hNowhere : ¬ c.ReachesBucket session)
    {code : ExitCode}
    {added : Screen}
    (h : Job.Ends code added) :
    ∃ documents errors,
      added.Shows documents errors ∧
      c.Disciplined session s code documents errors := by
  have hRemoval :
      ∀ keys bucket place,
        c = .remove keys bucket →
        Session.placeOf (Removal.route session keys bucket)
            bucket ≠ .ok place := by
    rintro keys bucket place rfl hPlace
    exact hNowhere ⟨place, hPlace⟩
  cases h with
  | shown hShows =>
      exact
        ⟨_, _, hShows,
          { one_document := Nat.le_refl 1
            success := fun _ => ⟨rfl, rfl⟩
            failure := fun h => absurd rfl h
            down := fun h => absurd h hUp
            document_of_failure := fun h => absurd rfl h
            removal := fun _ _ _ hSame hPlace =>
              absurd hPlace (hRemoval _ _ _ hSame) }⟩
  | refused hCode hShows =>
      exact
        ⟨_, _, hShows,
          { one_document := Nat.zero_le 1
            success := fun h => absurd h hCode
            failure := fun _ => .inl (List.cons_ne_nil _ _)
            down := fun h => absurd h hUp
            document_of_failure := fun _ h => absurd rfl h
            removal := fun _ _ _ hSame hPlace =>
              absurd hPlace (hRemoval _ _ _ hSame) }⟩

variable (session) in
/- What a command adds to the screen tells of it. -/
def PrintsDocuments
    (f : Formatter)
    (c : Command)
    (w : World σ) : Prop :=
  ∃ moment added documents errors,
    (c.run session f w).2.screen =
        w.screen ++ (c.logged session w).map (.log moment) ++ added ∧
      added.Shows documents errors ∧
      c.TellsOf session w.backends documents errors
        (c.run session f w).1

variable {f : Formatter} {w : World σ}

/- The screen of a command after its warnings. -/
theorem warned_screen
    (hReport : ∀ health seconds, c ≠ .backends health seconds) :
    (if c.calls w.files then (session.warned w).screen
      else w.screen) =
      w.screen ++
        (c.logged session w).map
          (.log (session.now w.backends)) := by
  have hLogged :
      c.logged session w =
        if c.calls w.files then
          Invocation.headerWarnings session.headers
        else [] := by
    rw [Invocation.headerWarnings_eq]
    cases c with
    | backends health seconds => exact absurd rfl (hReport _ _)
    | _ => rfl
  rw [hLogged]
  split
  · rfl
  · exact (List.append_nil _).symm

theorem printsDocuments_of_hasEnded
    (hReport : ∀ health seconds, c ≠ .backends health seconds)
    (hNowhere : ¬ c.ReachesBucket session)
    (hSummary : ¬ c.LacksSummary session w.backends)
    (h :
      Job.HasEnded
        (if c.calls w.files then (session.warned w).screen
          else w.screen)
        (c.run session f w)) :
    c.PrintsDocuments session f w := by
  have hUp : ¬ c.FindsDown session w.backends := by
    cases c with
    | backends health seconds => exact absurd rfl (hReport _ _)
    | _ => exact id
  rw [warned_screen hReport] at h
  rcases h with ⟨code, added, hCode, hScreen, hEnds⟩
  rcases disciplined_of_ends hUp hNowhere hEnds with
    ⟨documents, errors, hShows, hDisciplined⟩
  refine ⟨_, added, documents, errors, hScreen, hShows, ?_⟩
  rw [hCode]
  exact ⟨hSummary, hDisciplined⟩

variable (hJson : f.json = true)

include hJson

/- The report on the backends is a document, also on a failure. -/
theorem backends_printsDocuments
    (session : Session σ)
    (health : Bool)
    (seconds : Nat)
    (w : World σ) :
    (backends health seconds).PrintsDocuments session f w := by
  let c := backends health seconds
  rcases BackendsReport.run_eq session f health seconds w with
    ⟨moment, after, hRun, hScreen⟩
  rw [if_pos hJson] at hScreen
  let r :=
    BackendsReport.of session.registry
      (BackendsReport.found? session health seconds w.backends)
  have hPrinted :
      after.screen =
        w.screen ++ (c.logged session w).map (.log moment) ++
          Formatter.document r.toValue :=
    hScreen
  have hDown :
      r.status = some .down ↔ c.FindsDown session w.backends :=
    BackendsReport.status_of_eq_down_iff session.registry _
  have hShows :
      (Formatter.document r.toValue).Shows [r.toValue] [] :=
    Screen.shows_document r.isExact_toValue
  have hDone : c.run session f w = (some r.code, after) := hRun
  unfold PrintsDocuments
  rw [hDone]
  rcases r.code_cases with ⟨hFailed, hStatus⟩ | ⟨hGood, hStatus⟩
  · rw [hFailed]
    -- the one failure that is told by a document only
    exact
      ⟨moment, _, _, _, hPrinted, hShows, id,
        { one_document := Nat.le_refl 1
          success := nofun
          failure := fun _ => .inr (hDown.mp hStatus)
          down := fun _ => ⟨rfl, rfl, rfl⟩
          document_of_failure := fun _ _ => .inl (hDown.mp hStatus)
          removal := nofun }⟩
  · rw [hGood]
    rcases disciplined_of_ends (fun h => hStatus (hDown.mpr h)) id
        (.shown hShows) with
      ⟨documents, errors, hDocuments, hDisciplined⟩
    exact
      ⟨moment, _, documents, errors, hPrinted, hDocuments, id,
        hDisciplined⟩

/- A removal with a bucket is a document, also on a failure. -/
theorem remove_printsDocuments
    (session : Session σ)
    (keys : List String)
    (bucket : Option String)
    (w : World σ) :
    (remove keys bucket).PrintsDocuments session f w := by
  have hReport (health : Bool) (seconds : Nat) :
      remove keys bucket ≠ .backends health seconds :=
    Command.noConfusion
  cases hPlace :
      Session.placeOf (Removal.route session keys bucket) bucket with
  | error e =>
      have hRun :
          (remove keys bucket).run session f w =
            Job.report f "Failed to remove objects" e
              (session.warned w) :=
        Removal.run_of_no_place hPlace f w
      have hNowhere :
          ¬ (remove keys bucket).ReachesBucket session := by
        rintro ⟨place, hFound⟩
        cases hPlace.symm.trans hFound
      apply printsDocuments_of_hasEnded hReport hNowhere id
      rw [hRun]
      exact Job.answers_report hJson _ e (session.warned w)
  | ok place =>
      let r : Removal :=
        ⟨place,
          (Removal.removeAll
            (StorageClient.standard.remove
              (Removal.route session keys bucket)
              (some place.bucket)) keys w.backends).1⟩
      have hRun :
          (remove keys bucket).run session f w = _ :=
        Removal.run_of_place hPlace f w
      have hGood : r.code = .success ↔ r.failures = [] :=
        r.code_endsWith.success_iff.trans r.failures_eq_nil_iff.symm
      have hErrors :
          r.failures.map Removal.failureText = [] ↔
            r.failures = [] :=
        List.map_eq_nil_iff
      have hWarned :
          (session.warned w).screen =
            w.screen ++
              ((remove keys bucket).logged session w).map
                (.log (session.now w.backends)) :=
        warned_screen hReport
      unfold PrintsDocuments
      rw [hRun, hWarned]
      refine
        ⟨_, r.screen f, [r.toValue],
          r.failures.map Removal.failureText, rfl,
          Removal.screen_shows hJson r, id, ?_⟩
      exact
        { one_document := Nat.le_refl 1
          success := fun h => ⟨rfl, hErrors.mpr (hGood.mp h)⟩
          failure := fun h =>
            .inl fun hNone => h (hGood.mpr (hErrors.mp hNone))
          down := nofun
          document_of_failure := fun _ _ => .inr ⟨place, hPlace⟩
          removal := by
            rintro _ _ _ ⟨⟩ hFound
            cases hPlace.symm.trans hFound
            exact
              ⟨r, rfl, Removal.map_fst_removeAll _ keys w.backends,
                rfl, rfl⟩ }

/- A listing is a document, unless it breaks off. -/
theorem list_printsDocuments
    (session : Session σ)
    (bucket keyStart : Option String)
    (recursive : Bool)
    (maxKeys : Option Int)
    (w : World σ) :
    (list bucket keyStart recursive maxKeys).PrintsDocuments session
      f w := by
  let c := list bucket keyStart recursive maxKeys
  have hReport (health : Bool) (seconds : Nat) :
      c ≠ .backends health seconds :=
    Command.noConfusion
  rcases BucketListing.ends hJson session bucket keyStart recursive
      maxKeys w with
    ⟨hFound, hNone, hScreen⟩ | ⟨hFound, hEnded⟩
  · have hWarned :
        (session.warned w).screen =
          w.screen ++
            (c.logged session w).map
              (.log (session.now w.backends)) :=
      warned_screen hReport
    have hDone : (c.run session f w).1 = none := hNone
    rw [hWarned] at hScreen
    refine
      ⟨_, [], [], [], hScreen.trans (List.append_nil _).symm,
        Screen.shows_nil, ?_⟩
    rw [hDone]
    exact ⟨hFound, rfl, rfl⟩
  · exact printsDocuments_of_hasEnded hReport id hFound hEnded

/-
  Of the other commands each ends with a document or an error,
  unless it prints a content.
-/
theorem hasEnded_run
    (session : Session σ)
    (hDocuments : c.printsContent = false)
    (hReport : ∀ health seconds, c ≠ .backends health seconds)
    (hRemove : ∀ keys bucket, c ≠ .remove keys bucket)
    (hList :
      ∀ bucket keyStart recursive maxKeys,
        c ≠ .list bucket keyStart recursive maxKeys)
    (w : World σ) :
    Job.HasEnded
      (if c.calls w.files then (session.warned w).screen
        else w.screen)
      (c.run session f w) := by
  cases c with
  | backends health seconds => exact absurd rfl (hReport _ _)
  | remove keys bucket => exact absurd rfl (hRemove _ _)
  | list bucket keyStart recursive maxKeys =>
      exact absurd rfl (hList _ _ _ _)
  | get key path bucket =>
      have hFile : Destination.ofArguments key path ≠ .results :=
        of_decide_eq_false hDocuments
      exact Download.answers hJson session hFile bucket w
  | put file key bucket contentType =>
      exact Upload.ends hJson session file key bucket contentType w
  | stat key bucket => exact Lookup.answers hJson session key bucket w
  | makeBucket bucket ignoreExisting =>
      exact
        BucketChange.make_answers hJson session bucket ignoreExisting
          w
  | removeBucket bucket =>
      exact BucketChange.remove_answers hJson session bucket w
  | getAcl key bucket =>
      exact AccessList.get_answers hJson session key bucket w
  | setAcl acl key bucket =>
      exact AccessList.set_answers hJson session acl key bucket w
  | share key bucket expire method =>
      exact SharedLink.ends hJson session key bucket expire method w
  | completions shell =>
      exact
        Job.answers_refusal hJson ExitCode.noConfusion
          completionsText w

theorem printsDocuments
    (session : Session σ)
    (hDocuments : c.printsContent = false)
    (w : World σ) : c.PrintsDocuments session f w := by
  by_cases hReport : ∃ health seconds, c = .backends health seconds
  · rcases hReport with ⟨health, seconds, rfl⟩
    exact backends_printsDocuments hJson session health seconds w
  by_cases hRemove : ∃ keys bucket, c = .remove keys bucket
  · rcases hRemove with ⟨keys, bucket, rfl⟩
    exact remove_printsDocuments hJson session keys bucket w
  by_cases hList :
      ∃ bucket keyStart recursive maxKeys,
        c = .list bucket keyStart recursive maxKeys
  · rcases hList with ⟨bucket, keyStart, recursive, maxKeys, rfl⟩
    exact
      list_printsDocuments hJson session bucket keyStart recursive
        maxKeys w
  have hOther (health : Bool) (seconds : Nat) :
      c ≠ .backends health seconds :=
    fun h => hReport ⟨health, seconds, h⟩
  apply printsDocuments_of_hasEnded hOther
  · intro hReaches
    unfold ReachesBucket at hReaches
    split at hReaches
    · exact hRemove ⟨_, _, rfl⟩
    · exact hReaches
  · intro hLacks
    unfold LacksSummary at hLacks
    split at hLacks
    · exact hList ⟨_, _, _, _, rfl⟩
    · exact hLacks
  · apply hasEnded_run hJson session hDocuments hOther
    · exact fun keys bucket h => hRemove ⟨keys, bucket, h⟩
    · exact fun bucket keyStart recursive maxKeys h =>
        hList ⟨bucket, keyStart, recursive, maxKeys, h⟩

/-
  A command that prints documents first logs warnings: of headers
  that its call cannot have, or of backends that it finds down.
  Below them it adds at most one document to the results, and
  documents about errors to the messages, each of them a JSON text
  on its own lines.  So the results are JSON, and the messages are
  JSON below the lines of the log that are shown, if any are.  The
  documents tell how the command ended: success is one document
  without errors, and anything else is an error, unless a backend
  was found down.  Only a listing without a summary breaks off.
-/
theorem run_prints_documents
    (session : Session σ)
    (hDocuments : c.printsContent = false)
    (w : World σ) :
    let logged := c.logged session w
    let done := c.run session f w
    ∃ (moment : Moment) (added : Screen)
        (documents : List Value) (errors : List String)
        (results messages : List Char),
      let shown : Screen := logged.map (.log moment) ++ added
      done.2.screen = w.screen ++ shown ∧
        added.Shows documents errors ∧
        Json.SpellsLines documents results ∧
        Json.SpellsLines (errors.map Formatter.errorValue)
          messages ∧
        (∀ o : LogOptions,
          shown.bytesOn o .results =
              Bytes.ofString (String.ofList results) ∧
            shown.bytesOn o .messages =
              Bytes.ofString
                (o.text moment logged ++ String.ofList messages) ∧
            ((∀ e ∈ logged, o.shows e.level = false) →
              shown.bytesOn o .messages =
                Bytes.ofString (String.ofList messages))) ∧
        c.TellsOf session w.backends documents errors done.1 := by
  intro logged done
  rcases printsDocuments hJson session hDocuments w with
    ⟨moment, added, documents, errors, hScreen, hShows, hTells⟩
  rcases hShows.exists_bytes moment logged with
    ⟨results, messages, hResults, hMessages, hBytes⟩
  rw [List.append_assoc] at hScreen
  refine
    ⟨moment, added, documents, errors, results, messages, hScreen,
      hShows, hResults, hMessages, ?_, hTells⟩
  intro o
  rcases hBytes o with ⟨hResultsBytes, hMessagesBytes⟩
  refine ⟨hResultsBytes, hMessagesBytes, ?_⟩
  intro hSilent
  rw [hMessagesBytes, LogOptions.text_of_not_shown hSilent,
    String.empty_append]

end Command

end StorageRouting

------------------------------------------------------------
-- A Session with Warnings
------------------------------------------------------------

namespace StorageRouting

namespace Command

/- A session with one backend, and a header no call can have. -/
def sampleSession : Session MemoryStore :=
  let r :=
    ((Registry.new "one" false).register "one"
      (MemoryStore.adapter Slot.whole (fun _ => default)
        { BackendConfig.blank with
          name := "one", defaultBucket := some "own" })).2
  { Session.ofRegistry r (fun _ => default) "" with
    headers := [("bad name", "x")] }

/- A world in which the backend is closed. -/
def sampleWorld : World MemoryStore where
  backends := (MemoryStore.empty "one").close
  files := FileTree.empty
  screen := []

/-
  Over a closed backend, the report on the backends is one
  document without errors, and a removal is one document with
  an error; neither is a success.  The one warns of the backend,
  the other one of the header.
-/
theorem sampleSession_prints_documents :
    let f : Formatter :=
      { json := true, quiet := false, noColor := false }
    let report := backends true 5
    let removal := remove ["a", "b"] none
    f.json = true ∧
      (report.printsContent = false ∧
        (report.run sampleSession f sampleWorld).1 =
          some .networkError ∧
        ∃ (moment : Moment) (e : LogEntry) (added : Screen)
            (documents : List Value),
          (report.run sampleSession f sampleWorld).2.screen =
              .log moment e :: added ∧
            e.message = "Backend health check failed" ∧
            added.Shows documents [] ∧
            documents.length = 1) ∧
      removal.printsContent = false ∧
        ∃ (code : ExitCode) (moment : Moment) (e : LogEntry)
            (added : Screen),
          (removal.run sampleSession f sampleWorld).1 = some code ∧
            code ≠ .success ∧
            (removal.run sampleSession f sampleWorld).2.screen =
              .log moment e :: added ∧
            e.message = "Ignoring invalid header on invocation" ∧
            ∃ (r : Removal) (errors : List String),
              added.Shows [r.toValue] errors ∧
                errors = r.failures.map Removal.failureText ∧
                errors ≠ [] := by
  intro f report removal
  have hDown : report.FindsDown sampleSession sampleWorld.backends :=
    ⟨_, rfl, _, List.mem_cons_self, rfl⟩
  have hUp : ¬ removal.FindsDown sampleSession sampleWorld.backends :=
    id
  rcases run_prints_documents (c := report) (f := f) rfl
      sampleSession rfl sampleWorld with
    ⟨moment, added, documents, errors, _, _, hScreen, hShows, _, _,
      _, _, hReport⟩
  rcases run_prints_documents (c := removal) (f := f) rfl
      sampleSession rfl sampleWorld with
    ⟨moment', added', documents', errors', _, _, hScreen', hShows',
      _, _, _, _, hRemoval⟩
  rcases hReport.down hDown with ⟨hCode, hOne, rfl⟩
  rcases hRemoval.removal _ _ _ rfl rfl with
    ⟨r, _, _, rfl, hErrors⟩
  have hFailed :
      (removal.run sampleSession f sampleWorld).1 ≠ some .success := by
    decide
  have hCode' : _ ≠ ExitCode.success := fun h =>
    hFailed (congrArg some h)
  exact
    ⟨rfl,
      ⟨rfl, congrArg some hCode, moment, _, added, documents,
        hScreen, rfl, hShows, hOne⟩,
      rfl, _, moment', _, added', rfl, hCode', hScreen', rfl, r,
      errors', hShows', hErrors,
      (hRemoval.failure hCode').resolve_right hUp⟩

/-
  It is not so that a command that ends with success leaves the
  messages empty: as the program is set up, the warnings of its
  call are shown there.
-/
theorem success_not_silent :
    ¬ ∀ (session : Session MemoryStore) (c : Command)
        (f : Formatter) (w : World MemoryStore),
        f.json = true →
        c.printsContent = false →
        (c.run session f w).1 = some .success →
        ∃ added : Screen,
          (c.run session f w).2.screen = w.screen ++ added ∧
            added.bytesOn (Variables.log []) .messages =
              Bytes.empty := by
  intro hAll
  let f : Formatter :=
    { json := true, quiet := false, noColor := false }
  let c := makeBucket (some "new") false
  let w : World MemoryStore :=
    ⟨MemoryStore.empty "one", FileTree.empty, []⟩
  let o := Variables.log []
  rcases hAll sampleSession c f w rfl rfl rfl with
    ⟨added, hScreen, hBytes⟩
  rcases printsDocuments (c := c) (f := f) rfl sampleSession rfl w with
    ⟨moment, rest, documents, errors, hScreen', hShows, _⟩
  rcases hShows.exists_bytes moment (c.logged sampleSession w) with
    ⟨_, messages, _, _, hShown⟩
  have hAdded :
      added = (c.logged sampleSession w).map (.log moment) ++ rest :=
    hScreen.symm.trans hScreen'
  rw [hAdded, (hShown o).2] at hBytes
  -- the line of an entry that is shown is never empty
  have hText (e : LogEntry) :
      e.text o.colors moment ++ "\n" ++ "" ++
          String.ofList messages ≠ "" := by
    intro hNothing
    have hLength := congrArg String.length hNothing
    simp at hLength
  exact hText _ (String.toByteArray_inj.mp hBytes)

end Command

end StorageRouting
