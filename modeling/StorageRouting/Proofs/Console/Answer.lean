import StorageRouting.Console.Run
import StorageRouting.Proofs.Console.Removal
import StorageRouting.Proofs.Document.Json

/-
  Jobs that print documents and end with an answer: a document
  after success, or one about an error.  So do most commands,
  after the warnings of their calls, and what they print are JSON
  texts below these entries of the log.

  Key definitions include:
    * `LogOptions.text`
    * `Screen.Shows`
    * `Job.Quietly`
    * `Job.Ends`
    * `Job.Answers`
    * `Download.FailsOpenly`

  Main statements:
    * `Screen.bytesOn_documents`
    * `Screen.bytesOn_log_documents`
    * `Job.Quietly.answers`
    * `Job.answers_ask`
    * `Download.save_quietly`
    * `BucketListing.ends`
    * `Upload.ends`
-/

------------------------------------------------------------
-- The Text of the Log
------------------------------------------------------------

namespace StorageRouting

namespace LogOptions

/- The lines of all entries that are shown. -/
def text
    (o : LogOptions)
    (moment : Moment) : List LogEntry → String
| [] => ""
| e :: rest => line o moment e ++ text o moment rest

/- Nothing is written when no entry is shown. -/
theorem text_of_not_shown
    {o : LogOptions}
    {entries : List LogEntry}
    (h : ∀ e ∈ entries, o.shows e.level = false)
    (moment : Moment) : o.text moment entries = "" := by
  induction entries with
  | nil => rfl
  | cons e rest ih =>
      have hFirst : o.line moment e = "" := by
        rw [line, h e List.mem_cons_self, if_neg Bool.false_ne_true]
      rw [text, hFirst, String.empty_append]
      exact ih fun e' he => h e' (List.mem_cons_of_mem e he)

end LogOptions

end StorageRouting

------------------------------------------------------------
-- Screens of Documents
------------------------------------------------------------

namespace StorageRouting

namespace Formatter

/- The document about an error. -/
def errorValue (text : String) : Value :=
  .object [("error", .string text)]

theorem isExact_errorValue (text : String) :
    (errorValue text).isExact = true := by
  simp [errorValue]

end Formatter

namespace Screen

/-
  A screen of documents: those of the results, and those about
  errors, each in the order in which they were printed.
-/
structure Shows
    (s : Screen)
    (documents : List Value)
    (errors : List String) : Prop where
  results : s.on .results = documents.map (.document .results)
  messages :
    s.on .messages =
      (errors.map Formatter.errorValue).map (.document .messages)
  exact_documents : ∀ v ∈ documents, v.isExact = true

variable
  {s t : Screen}
  {documents documents' : List Value}
  {errors errors' : List String}

theorem shows_nil : Shows [] [] [] where
  results := rfl
  messages := rfl
  exact_documents := nofun

theorem shows_document
    {v : Value}
    (h : v.isExact = true) :
    Shows (Formatter.document v) [v] [] where
  results := rfl
  messages := rfl
  exact_documents := by
    intro v' hv
    rw [List.mem_singleton.mp hv]
    exact h

theorem shows_error
    {f : Formatter}
    (hJson : f.json = true)
    (text : String) : Shows (f.error text) [] [text] := by
  rw [Formatter.error, if_pos hJson]
  exact ⟨rfl, rfl, List.forall_mem_nil _⟩

theorem Shows.append
    (h : Shows s documents errors)
    (h' : Shows t documents' errors') :
    Shows (s ++ t) (documents ++ documents') (errors ++ errors') where
  results := by
    rw [List.map_append, ← h.results, ← h'.results]
    exact List.filter_append _ _
  messages := by
    rw [List.map_append, List.map_append, ← h.messages,
      ← h'.messages]
    exact List.filter_append _ _
  exact_documents := by
    intro v hv
    rcases List.mem_append.mp hv with hv | hv
    · exact h.exact_documents v hv
    · exact h'.exact_documents v hv

/- The bytes of documents on a channel are one text. -/
theorem exists_lines
    {vs : List Value}
    (hExact : ∀ v ∈ vs, v.isExact = true)
    (c : Channel) :
    ∃ text,
      Json.SpellsLines vs text ∧
      ∀ (o : LogOptions) (acc : Bytes),
        (vs.map (Output.document c)).foldl
            (fun bytes x => bytes ++ x.bytes o) acc =
          acc ++ Bytes.ofString (String.ofList text) := by
  induction vs with
  | nil => exact ⟨[], .nil, fun _ _ => ByteArray.append_empty.symm⟩
  | cons v rest ih =>
      let line := Json.pretty v ++ "\n"
      rcases ih fun v' hv => hExact v' (List.mem_cons_of_mem v hv) with
        ⟨text, hLines, hBytes⟩
      refine
        ⟨(Json.pretty v).toList ++ '\n' :: text,
          .cons (Json.spells_pretty (hExact v List.mem_cons_self))
            hLines, ?_⟩
      intro o acc
      have hText :
          String.ofList ((Json.pretty v).toList ++ '\n' :: text) =
            line ++ String.ofList text := by
        apply String.toList_inj.mp
        simp [line]
      rw [hText, Bytes.ofString_append, ← ByteArray.append_assoc]
      exact hBytes o (acc ++ Bytes.ofString line)

/- The bytes of entries of the log are the lines that are shown. -/
theorem foldl_log
    (o : LogOptions)
    (moment : Moment)
    (entries : List LogEntry)
    (acc : Bytes) :
    (entries.map (Output.log moment)).foldl
        (fun bytes x => bytes ++ x.bytes o) acc =
      acc ++ Bytes.ofString (o.text moment entries) := by
  induction entries generalizing acc with
  | nil => exact ByteArray.append_empty.symm
  | cons e rest ih =>
      have hLine :
          (Output.log moment e).bytes o =
            Bytes.ofString (o.line moment e) :=
        rfl
      rw [List.map_cons, List.foldl_cons, ih, hLine,
        ByteArray.append_assoc, ← Bytes.ofString_append]
      rfl

/-
  Below entries of the log, documents are their JSON texts: alone
  on the results, and below the lines that are shown on the
  messages.
-/
theorem Shows.exists_bytes
    (h : Shows s documents errors)
    (moment : Moment)
    (logged : List LogEntry) :
    let below : Screen := logged.map (.log moment) ++ s
    ∃ results messages,
      Json.SpellsLines documents results ∧
      Json.SpellsLines (errors.map Formatter.errorValue) messages ∧
      ∀ o : LogOptions,
        below.bytesOn o .results =
            Bytes.ofString (String.ofList results) ∧
          below.bytesOn o .messages =
            Bytes.ofString
              (o.text moment logged ++ String.ofList messages) := by
  intro below
  have hLog (e : LogEntry) :
      (Output.log moment e).channel = .messages :=
    rfl
  have hErrors :
      ∀ v ∈ errors.map Formatter.errorValue, v.isExact = true := by
    intro v hv
    rcases List.mem_map.mp hv with ⟨text, _, rfl⟩
    exact Formatter.isExact_errorValue text
  rcases exists_lines h.exact_documents .results with
    ⟨results, hResults, hResultsBytes⟩
  rcases exists_lines hErrors .messages with
    ⟨messages, hMessages, hMessagesBytes⟩
  refine ⟨results, messages, hResults, hMessages, ?_⟩
  intro o
  constructor
  · rw [bytesOn, on_append, h.results,
      on_map_of_other_channel hLog Channel.noConfusion,
      List.nil_append, hResultsBytes]
    exact ByteArray.empty_append
  · rw [bytesOn, on_append, h.messages, on_map_of_channel hLog,
      List.foldl_append, foldl_log, hMessagesBytes,
      ByteArray.append_assoc, ← Bytes.ofString_append]
    exact ByteArray.empty_append

end Screen

end StorageRouting

------------------------------------------------------------
-- Exact Documents
------------------------------------------------------------

namespace StorageRouting

@[simp] theorem Place.fieldsExact (p : Place) :
    Value.fieldsExact p.fields = true := by
  simp [fields]

@[simp] theorem ObjectInfo.fieldsExact (o : ObjectInfo) :
    Value.fieldsExact o.fields = true := by
  simp [fields]

@[simp] theorem ObjectInfo.isExact_toValue (o : ObjectInfo) :
    o.toValue.isExact = true := by
  simp [toValue]

@[simp] theorem Grant.isExact_toValue (g : Grant) :
    g.toValue.isExact = true := by
  simp [toValue]

@[simp] theorem BackendEntry.isExact_toValue (e : BackendEntry) :
    e.toValue.isExact = true := by
  simp [toValue, -Option.map_bind]

theorem BackendsReport.isExact_toValue (r : BackendsReport) :
    r.toValue.isExact = true := by
  simp [toValue]

theorem BucketListing.isExact_toValue (l : BucketListing) :
    l.toValue.isExact = true := by
  simp [toValue, ListSummary.toValue]

theorem Download.isExact_toValue (d : Download) :
    d.toValue.isExact = true := by
  simp [toValue]

theorem Upload.isExact_toValue (u : Upload) :
    u.toValue.isExact = true := by
  simp [toValue]

theorem Lookup.isExact_toValue (l : Lookup) :
    l.toValue.isExact = true := by
  simp [toValue]

theorem BucketChange.isExact_toValue (c : BucketChange) :
    c.toValue.isExact = true := by
  simp [toValue]

theorem AccessList.isExact_toValue (l : AccessList) :
    l.toValue.isExact = true := by
  simp [toValue]

theorem AccessList.isExact_setValue
    (acl : CannedAcl)
    (key : Option String)
    (p : Place) : (setValue acl key p).isExact = true :=
  Value.isExact_sorted (by simp)

theorem SharedLink.isExact_toValue
    (now : Moment)
    (l : SharedLink) : (l.toValue now).isExact = true := by
  simp [toValue]

theorem Removal.isExact_toValue (r : Removal) :
    r.toValue.isExact = true := by
  have hFailure : ∀ x, (failureValue x).isExact = true := by
    intro x
    simp [failureValue]
  simp only [toValue]
  split <;> simp [Value.optional, hFailure]

end StorageRouting

------------------------------------------------------------
-- Answers
------------------------------------------------------------

namespace StorageRouting

namespace Job

variable {σ α β : Type}

/- A job that prints nothing, and whose answer has a property. -/
def Quietly
    (P : α → Prop)
    (j : Job σ α) : Prop :=
  ∀ w, ∃ a w',
    j w = (some a, w') ∧ w'.screen = w.screen ∧ P a

/-
  What is printed at the end: a document after success, or one
  about an error.
-/
inductive Ends : ExitCode → Screen → Prop where
| shown
    {v : Value}
    {added : Screen}
    (h : added.Shows [v] []) : Ends .success added
| refused
    {code : ExitCode}
    {text : String}
    {added : Screen}
    (hCode : code ≠ .success)
    (h : added.Shows [] [text]) : Ends code added

/- A job has ended, below what was printed before its end. -/
def HasEnded
    (before : Screen)
    (x : Option ExitCode × World σ) : Prop :=
  ∃ code added,
    x.1 = some code ∧ x.2.screen = before ++ added ∧ Ends code added

/- A job that prints what is printed at its end. -/
def Answers (j : Job σ ExitCode) : Prop :=
  ∀ w, HasEnded w.screen (j w)

theorem quietly_pure
    {P : α → Prop}
    {a : α}
    (h : P a) : Quietly P (pure a : Job σ α) :=
  fun w => ⟨a, w, rfl, rfl, h⟩

theorem quietly_ask (a : Action σ α) :
    Quietly (fun _ => True) (ask a) :=
  fun w => ⟨(a w.backends).1, _, rfl, rfl, trivial⟩

theorem quietly_observe (f : σ → α) :
    Quietly (fun _ => True) (observe f) :=
  fun w => ⟨f w.backends, w, rfl, rfl, trivial⟩

theorem quietly_change
    (f : FileTree → Except FileError FileTree) :
    Quietly (fun _ => True) (change f : Job σ _) := by
  intro w
  unfold change
  split
  · exact ⟨_, _, rfl, rfl, trivial⟩
  · exact ⟨_, _, rfl, rfl, trivial⟩

theorem Quietly.bind
    {P : α → Prop}
    {Q : β → Prop}
    {j : Job σ α}
    {k : α → Job σ β}
    (h : j.Quietly P)
    (hk : ∀ a, P a → (k a).Quietly Q) : (j >>= k).Quietly Q := by
  intro w
  rcases h w with ⟨a, w', hRun, hScreen, hAnswer⟩
  rcases hk a hAnswer w' with ⟨b, w'', hNext, hScreen', hAnswer'⟩
  rw [bind_of_some hRun]
  exact ⟨b, w'', hNext, hScreen'.trans hScreen, hAnswer'⟩

/- What happens quietly before the end is not seen in it. -/
theorem Quietly.answers
    {P : α → Prop}
    {j : Job σ α}
    {k : α → Job σ ExitCode}
    (h : j.Quietly P)
    (hk : ∀ a, P a → (k a).Answers) : (j >>= k).Answers := by
  intro w
  rcases h w with ⟨a, w', hRun, hScreen, hAnswer⟩
  rw [bind_of_some hRun, ← hScreen]
  exact hk a hAnswer w'

variable {f : Formatter} (hJson : f.json = true)

include hJson

theorem present_of_json
    (v : Value)
    (otherwise : Screen) :
    (present f v otherwise : Job σ ExitCode) =
      print (Formatter.document v) >>= fun _ => pure .success := by
  have hPrinted :
      (if f.json then Formatter.document v else otherwise) =
        Formatter.document v :=
    if_pos hJson
  unfold present
  rw [hPrinted]

theorem answers_present
    {v : Value}
    (hExact : v.isExact = true)
    (otherwise : Screen) :
    (present f v otherwise : Job σ ExitCode).Answers := by
  rw [present_of_json hJson]
  exact fun _ =>
    ⟨.success, Formatter.document v, rfl, rfl,
      .shown (Screen.shows_document hExact)⟩

theorem answers_refusal
    {code : ExitCode}
    (hCode : code ≠ .success)
    (text : String) :
    (print (f.error text) >>= fun _ =>
      pure code : Job σ ExitCode).Answers :=
  fun _ =>
    ⟨code, f.error text, rfl, rfl,
      .refused hCode (Screen.shows_error hJson text)⟩

theorem answers_report
    (context : String)
    (e : Error) : (report f context e : Job σ ExitCode).Answers :=
  answers_refusal hJson (ExitCode.ofError_ne_success e) _

/-
  What is told of the answer of the backends: an error, or what
  comes of anything else.
-/
theorem answers_ask
    {a : Action σ α}
    {context : String}
    {k : Except Error α → Job σ ExitCode}
    (hError : ∀ e, k (.error e) = report f context e)
    (hOk : ∀ x, (k (.ok x)).Answers) : (ask a >>= k).Answers := by
  apply (quietly_ask a).answers
  rintro (e | x) _
  · rw [hError e]
    exact answers_report hJson context e
  · exact hOk x

/-
  What is told of an answer in which there may be nothing to tell
  of.  Where there is nothing, the job breaks off.
-/
theorem ask_demand_cases
    {a : Action σ (Option α)}
    {context : String}
    {k : Except Error (Option α) → Job σ ExitCode}
    (hError : ∀ e, k (.error e) = report f context e)
    (hNone : ∀ w, k (.ok none) w = (none, w))
    (hSome : ∀ x, (k (.ok (some x))).Answers)
    (w : World σ) :
    let found := a w.backends
    let done := (ask a >>= k) w
    (found.1 = .ok none ∧ done.1 = none ∧
        done.2.screen = w.screen) ∨
      (found.1 ≠ .ok none ∧ HasEnded w.screen done) := by
  intro found done
  let after : World σ := { w with backends := found.2 }
  have hRun : done = k found.1 after := bind_of_some rfl k
  rw [hRun]
  rcases found.1 with e | _ | x
  · refine .inr ⟨?_, ?_⟩
    · intro hSame
      cases hSame
    · rw [hError e]
      exact answers_report hJson context e after
  · rw [hNone after]
    exact .inl ⟨rfl, rfl, rfl⟩
  · refine .inr ⟨?_, hSome x after⟩
    intro hSame
    cases hSame

omit hJson in
/- A job that answers below the warnings of its call. -/
def AnswersCall
    (session : Session σ)
    (j : Job σ ExitCode) : Prop :=
  ∀ w, HasEnded (session.warned w).screen (j w)

omit hJson in
theorem answersCall_direct
    (session : Session σ)
    (method : String)
    (args : List (String × Value))
    {k : StorageClient.Route σ → Job σ ExitCode}
    (h : ∀ r, (k r).Answers) :
    AnswersCall session (session.direct method args >>= k) := by
  intro w
  rw [bind_of_some (session.direct_eq method args w)]
  exact h _ (session.warned w)

/- A call whose answer by the backends is told. -/
theorem answersCall
    (session : Session σ)
    (method : String)
    (args : List (String × Value))
    {a : StorageClient.Route σ → Action σ α}
    {context : String}
    {k : Except Error α → Job σ ExitCode}
    (hError : ∀ e, k (.error e) = report f context e)
    (hOk : ∀ x, (k (.ok x)).Answers) :
    AnswersCall session
      (session.direct method args >>= fun r => ask (a r) >>= k) :=
  answersCall_direct session method args fun _ =>
    answers_ask hJson hError hOk

end Job

end StorageRouting

------------------------------------------------------------
-- Commands
------------------------------------------------------------

namespace StorageRouting

open Job

variable {σ : Type}

namespace Download

/- A content that was not saved does not end with success. -/
def FailsOpenly {α : Type} (answer : Except SavingFailure α) : Prop :=
  ∀ e, answer = .error e → e.code ≠ .success

theorem failsOpenly_ok
    {α : Type}
    (a : α) : FailsOpenly (.ok a) :=
  nofun

theorem failsOpenly_error
    {α : Type}
    {e : SavingFailure}
    (h : e.code ≠ .success) :
    FailsOpenly (.error e : Except SavingFailure α) := by
  rintro _ ⟨⟩
  exact h

theorem saveFile_quietly
    (path : String)
    (content : Bytes) :
    (saveFile path content : Job σ _).Quietly FailsOpenly := by
  have hFile (name : String) (e : FileError) :
      (fileFailure "create" name e).code ≠ .success :=
    ExitCode.noConfusion
  apply (quietly_change _).bind
  rintro (e | _) _
  · exact quietly_pure (failsOpenly_error (hFile _ e))
  · apply (quietly_change _).bind
    rintro (e | _) _
    · exact quietly_pure (failsOpenly_error (hFile path e))
    · exact quietly_pure (failsOpenly_ok ())

theorem save_quietly
    (body : Body)
    (path : String) :
    (save body (.file path) : Job σ _).Quietly FailsOpenly := by
  unfold save
  apply (saveFile_quietly path _).bind
  rintro (failure | _) hSaved
  · exact quietly_pure (failsOpenly_error (hSaved failure rfl))
  · cases body.untilError.2 with
    | none => exact quietly_pure (failsOpenly_ok _)
    | some e =>
        exact
          quietly_pure
            (failsOpenly_error (ExitCode.ofError_ne_success e))

end Download

variable
  {f : Formatter}
  (hJson : f.json = true)
  (session : Session σ)

include hJson

/- The route of the command. -/
def BucketListing.route
    (session : Session σ)
    (bucket keyStart : Option String) : StorageClient.Route σ :=
  session.route
    (session.invocation "ls"
      [("bucket", .ofString? bucket),
        ("prefix", .ofString? keyStart)])

/-
  The command breaks off when what it lists has no summary, and
  then it has printed nothing but its warnings.
-/
theorem BucketListing.ends
    (bucket keyStart : Option String)
    (recursive : Bool)
    (maxKeys : Option Int)
    (w : World σ) :
    let found :=
      take (route session bucket keyStart) bucket
        { keyStart, maxKeys, token := none, recursive } w.backends
    let done := run session f bucket keyStart recursive maxKeys w
    (found.1 = .ok none ∧ done.1 = none ∧
        done.2.screen = (session.warned w).screen) ∨
      (found.1 ≠ .ok none ∧
        HasEnded (session.warned w).screen done) := by
  intro found done
  have hRun : done = _ := bind_of_some (session.direct_eq "ls" _ w) _
  rw [hRun]
  exact
    ask_demand_cases hJson (fun _ => rfl) (fun _ => rfl)
      (fun l => answers_present hJson l.isExact_toValue _)
      (session.warned w)

theorem Lookup.answers
    (key : String)
    (bucket : Option String) :
    AnswersCall session (run session f key bucket) :=
  answersCall hJson session _ _ (fun _ => rfl) fun l =>
    answers_present hJson l.isExact_toValue (l.screen f)

theorem BucketChange.make_answers
    (bucket : Option String)
    (ignoreExisting : Bool) :
    AnswersCall session (runMake session f bucket ignoreExisting) :=
  answersCall hJson session _ _ (fun _ => rfl) fun c =>
    answers_present hJson c.isExact_toValue (c.screen f)

theorem BucketChange.remove_answers (bucket : Option String) :
    AnswersCall session (runRemove session f bucket) :=
  answersCall hJson session _ _ (fun _ => rfl) fun c =>
    answers_present hJson c.isExact_toValue (c.screen f)

theorem AccessList.get_answers (key bucket : Option String) :
    AnswersCall session (runGet session f key bucket) :=
  answersCall hJson session _ _ (fun _ => rfl) fun l =>
    answers_present hJson l.isExact_toValue (l.screen f)

theorem AccessList.set_answers
    (acl : CannedAcl)
    (key bucket : Option String) :
    AnswersCall session (runSet session f acl key bucket) :=
  answersCall hJson session _ _ (fun _ => rfl) fun p =>
    answers_present hJson (isExact_setValue acl key p) _

theorem SharedLink.runFor_answers
    (key : String)
    (bucket : Option String)
    (method : LinkMethod)
    (seconds : Nat) :
    AnswersCall session
      (runFor session f key bucket method seconds) := by
  apply answersCall hJson session _ _ (fun _ => rfl)
  intro l
  apply (quietly_observe session.now).answers
  intro now _
  exact answers_present hJson (l.isExact_toValue now) _

/- Without a time that can be read, there is no call. -/
theorem SharedLink.ends
    (key : String)
    (bucket : Option String)
    (expire : String)
    (method : LinkMethod)
    (w : World σ) :
    HasEnded
      (if (Expiration.parse expire).isOk then
        (session.warned w).screen
      else w.screen)
      (run session f key bucket expire method w) := by
  unfold run
  cases Expiration.parse expire with
  | error text =>
      exact answers_refusal hJson ExitCode.noConfusion text w
  | ok seconds =>
      exact
        runFor_answers hJson session key bucket method seconds w

theorem Upload.runWith_answers
    (path key : String)
    (bucket contentType : Option String)
    (content : Bytes) :
    AnswersCall session
      (runWith session f path key bucket contentType content) :=
  answersCall hJson session _ _ (fun _ => rfl) fun u =>
    answers_present hJson u.isExact_toValue _

/- Without a key and a content, there is no call. -/
theorem Upload.ends
    (path : String)
    (key bucket contentType : Option String)
    (w : World σ) :
    HasEnded
      (if (keyOf? path key).isSome && (w.files.read path).isOk then
        (session.warned w).screen
      else w.screen)
      (run session f path key bucket contentType w) := by
  have hLook :
      look (fun files => files.read path) w =
        (some (w.files.read path), w) :=
    rfl
  unfold run
  cases keyOf? path key with
  | none => exact answers_refusal hJson ExitCode.noConfusion _ w
  | some key =>
      change HasEnded _ ((look _ >>= _) w)
      rw [bind_of_some hLook]
      cases w.files.read path with
      | error e =>
          exact answers_refusal hJson ExitCode.noConfusion _ w
      | ok content =>
          exact
            runWith_answers hJson session path key bucket contentType
              content w

theorem Download.answers
    {key : String}
    {path : Option String}
    (hFile : Destination.ofArguments key path ≠ .results)
    (bucket : Option String) :
    AnswersCall session (run session f key path bucket) := by
  apply answersCall hJson session _ _ (fun _ => rfl)
  rintro ⟨place, body⟩
  cases hDestination : Destination.ofArguments key path with
  | results => exact absurd hDestination hFile
  | file path =>
      apply (save_quietly body path).answers
      rintro (failure | size) hSaved
      · exact answers_refusal hJson (hSaved failure rfl) _
      · exact answers_present hJson (isExact_toValue _) _

end StorageRouting
