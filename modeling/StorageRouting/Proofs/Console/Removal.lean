import StorageRouting.Backend.MemoryAdapter
import StorageRouting.Console.Removal
import StorageRouting.Proofs.Console.NotedSession

/-
  Removals go through all keys in the given order, whatever
  fails, tell of each of them, and end with the exit code of the
  first failure.

  Key definitions include:
    * `Removal.Splits`
    * `Removal.EndsWith`
    * `Removal.WrittenAs`
    * `Removal.ShownAs`
    * `Removal.GoesThrough`

  Main statements:
    * `Removal.code_endsWith`
    * `Removal.shownAs_screen`
    * `Removal.removeAll_noting`
    * `Removal.goesThrough_carried`
    * `Removal.run_goes_through`
-/

------------------------------------------------------------
-- Outcomes
------------------------------------------------------------

namespace StorageRouting

namespace ExitCode

/- The exit code of an error has the number of that error. -/
theorem number_ofError (e : Error) :
    (ofError e).number = e.exitCode := by
  cases e <;> rfl

theorem ofError_ne_success (e : Error) : ofError e ≠ .success := by
  intro h
  apply e.exitCode_ne_zero
  rw [← number_ofError, h]
  rfl

end ExitCode

namespace Removal

/-
  The keys of outcomes that were removed, and those that were
  not, each with its own error.  Both are in the order of the
  outcomes, and every outcome is in one of them.
-/
inductive Splits :
    List (String × Except Error Unit) →
    List String →
    List (String × Error) → Prop where
| nil : Splits [] [] []
| deleted
    {key : String}
    {outcomes : List (String × Except Error Unit)}
    {deleted : List String}
    {failed : List (String × Error)}
    (h : Splits outcomes deleted failed) :
    Splits ((key, .ok ()) :: outcomes) (key :: deleted) failed
| failed
    {key : String}
    {e : Error}
    {outcomes : List (String × Except Error Unit)}
    {deleted : List String}
    {failed : List (String × Error)}
    (h : Splits outcomes deleted failed) :
    Splits ((key, .error e) :: outcomes) deleted
      ((key, e) :: failed)

variable
  {outcomes : List (String × Except Error Unit)}
  {deleted : List String}
  {failed : List (String × Error)}

theorem Splits.deleted_sublist
    (h : Splits outcomes deleted failed) :
    deleted.Sublist (outcomes.map Prod.fst) := by
  induction h with
  | nil => exact List.Sublist.slnil
  | deleted h ih => exact ih.cons_cons _
  | failed h ih => exact ih.cons _

theorem Splits.failed_sublist
    (h : Splits outcomes deleted failed) :
    (failed.map Prod.fst).Sublist (outcomes.map Prod.fst) := by
  induction h with
  | nil => exact List.Sublist.slnil
  | deleted h ih => exact ih.cons _
  | failed h ih => exact ih.cons_cons _

/- The two lists of a removal split its outcomes. -/
theorem splits (r : Removal) :
    Splits r.outcomes r.deleted r.failures := by
  rcases r with ⟨place, outcomes⟩
  induction outcomes with
  | nil => exact .nil
  | cons x rest ih =>
      rcases x with ⟨key, _ | _⟩
      · exact .failed ih
      · exact .deleted ih

/-
  The exit code of a removal: success if every key was removed,
  or the code of the first failure, whatever comes after it.
-/
structure EndsWith
    (r : Removal)
    (code : ExitCode) : Prop where
  success_iff :
    code = .success ↔ ∀ x ∈ r.outcomes, x.2 = .ok ()
  first_failure :
    ∀ before key e after,
      r.outcomes = before ++ (key, .error e) :: after →
      (∀ x ∈ before, x.2 = .ok ()) →
      code.number = e.exitCode

/- Nothing failed if all outcomes are good. -/
theorem failures_eq_nil_iff (r : Removal) :
    r.failures = [] ↔ ∀ x ∈ r.outcomes, x.2 = .ok () := by
  rw [failures, List.filterMap_eq_nil_iff]
  constructor
  · intro h x hx
    have hNone := h x hx
    rcases x with ⟨key, _ | _⟩
    · cases hNone
    · rfl
  · intro h x hx
    simp only [h x hx]

theorem code_endsWith (r : Removal) : r.EndsWith r.code where
  success_iff := by
    rw [← failures_eq_nil_iff, code]
    cases r.failures with
    | nil => exact iff_of_true rfl rfl
    | cons failure rest =>
        exact
          iff_of_false (ExitCode.ofError_ne_success failure.2)
            (List.cons_ne_nil failure rest)
  first_failure := by
    intro before key e after hOutcomes hBefore
    have hNone : failures ⟨r.place, before⟩ = [] :=
      (failures_eq_nil_iff ⟨r.place, before⟩).mpr hBefore
    have hFirst :
        r.failures =
          (key, e) :: failures ⟨r.place, after⟩ := by
      rw [failures] at hNone
      rw [failures, hOutcomes, List.filterMap_append, hNone]
      rfl
    rw [code, hFirst]
    exact ExitCode.number_ofError e

example :
    let r : Removal :=
      { place := ⟨"one", "own"⟩
        outcomes :=
          [("a", .ok ()), ("b", .error (.notFound "b")),
            ("c", .error (.config "c")), ("d", .ok ())] }
    r.code = .notFound ∧
      r.deleted = ["a", "d"] ∧
      r.failures.map Prod.fst = ["b", "c"] :=
  ⟨rfl, rfl, rfl⟩

end Removal

end StorageRouting

------------------------------------------------------------
-- Reporting
------------------------------------------------------------

namespace StorageRouting

namespace Removal

/- What is said of a key that was not removed. -/
def failureText (failure : String × Error) : String :=
  "Failed to remove '" ++ failure.1 ++ "': " ++ failure.2.message

/-
  A document that tells of a removal: its place, all keys that
  were removed, and all that were not with the text of their own
  errors.  Both are in the order of the keys.  Without failures
  nothing is said of them.
-/
structure WrittenAs
    (r : Removal)
    (v : Value) : Prop where
  backend : v.field? "backend" = some (.string r.place.backend)
  bucket : v.field? "bucket" = some (.string r.place.bucket)
  deleted :
    v.field? "deleted" = some (.array (r.deleted.map .string))
  no_failed : r.failures = [] → v.field? "failed" = none
  failed :
    r.failures ≠ [] →
      v.field? "failed" =
        some
          (.array
            (r.failures.map fun failure =>
              .object
                [("key", .string failure.1),
                  ("error", .string failure.2.message)]))

/-
  A screen that tells of a removal.  There is an error for each
  failure in their order, as a document or as a line.  On the
  results there is one document, or else a line for each key that
  was removed, but none in quiet mode.
-/
structure ShownAs
    (r : Removal)
    (f : Formatter)
    (s : Screen) : Prop where
  document :
    f.json = true →
      ∃ v, s.on .results = [.document .results v] ∧ r.WrittenAs v
  error_documents :
    f.json = true →
      s.on .messages =
        r.failures.map fun failure =>
          .document .messages
            (.object [("error", .string (failureText failure))])
  lines :
    f.json = false →
      s.on .results =
        if f.quiet then []
        else
          r.deleted.map fun key =>
            .line .results
              (f.apply [32] "✓" ++ " Removed " ++
                r.place.object key)
  error_lines :
    f.json = false →
      s.on .messages =
        r.failures.map fun failure =>
          .line .messages
            (f.apply [31] "✗" ++ " " ++ failureText failure)

theorem writtenAs_toValue (r : Removal) : r.WrittenAs r.toValue where
  backend := rfl
  bucket := rfl
  deleted := rfl
  no_failed := by
    intro h
    simp only [toValue, h, List.isEmpty_nil, if_true]
    rfl
  failed := by
    intro h
    have hSome : ¬ r.failures.isEmpty = true := by
      rwa [List.isEmpty_iff]
    simp only [toValue, if_neg hSome]
    rfl

variable {f : Formatter}

/- Documents are printed without confirmations. -/
theorem success_of_json
    (h : f.json = true)
    (text : String) : f.success text = [] := by
  rw [Formatter.success, h, Bool.or_true]
  rfl

/- What is said of all keys, as documents. -/
theorem outcomes_of_json
    (h : f.json = true)
    (place : Place)
    (outcomes : List (String × Except Error Unit)) :
    outcomes.flatMap (fun x => outcomeScreen f place x.1 x.2) =
      (failures ⟨place, outcomes⟩).map fun failure =>
        .document .messages
          (.object [("error", .string (failureText failure))]) := by
  induction outcomes with
  | nil => rfl
  | cons x rest ih =>
      rcases x with ⟨key, e | _⟩
      · have hHead :
            outcomeScreen f place key (.error e) =
              [.document .messages
                (.object
                  [("error", .string (failureText (key, e)))])] :=
          if_pos h
        rw [List.flatMap_cons, hHead, ih]
        rfl
      · have hHead : outcomeScreen f place key (.ok ()) = [] :=
          success_of_json h _
        rw [List.flatMap_cons, hHead, ih]
        rfl

/- What is said of all keys, in lines. -/
theorem outcomes_of_lines
    (h : f.json = false)
    (place : Place)
    (outcomes : List (String × Except Error Unit)) :
    let r : Removal := ⟨place, outcomes⟩
    let said : Screen :=
      outcomes.flatMap (fun x => outcomeScreen f place x.1 x.2)
    said.on .results =
        (if f.quiet then []
        else
          r.deleted.map fun key =>
            .line .results
              (f.apply [32] "✓" ++ " Removed " ++
                place.object key)) ∧
      said.on .messages =
        r.failures.map fun failure =>
          .line .messages
            (f.apply [31] "✗" ++ " " ++ failureText failure) := by
  induction outcomes with
  | nil => cases f.quiet <;> exact ⟨rfl, rfl⟩
  | cons x rest ih =>
      rcases ih with ⟨hResults, hMessages⟩
      simp only [List.flatMap_cons, Screen.on_append, hResults,
        hMessages]
      rcases x with ⟨key, e | _⟩
      · have hHead :
            outcomeScreen f place key (.error e) =
              [.line .messages
                (f.apply [31] "✗" ++ " " ++
                  failureText (key, e))] := by
          simp only [outcomeScreen, Formatter.error, h]
          rfl
        rw [hHead]
        exact ⟨rfl, rfl⟩
      · have hHead :
            outcomeScreen f place key (.ok ()) =
              if f.quiet then []
              else
                [.line .results
                  (f.apply [32] "✓" ++ " Removed " ++
                    place.object key)] := by
          simp only [outcomeScreen, Formatter.success, h,
            Bool.or_false, Formatter.notice, String.append_assoc]
          rfl
        rw [hHead]
        cases f.quiet <;> exact ⟨rfl, rfl⟩

/- A removal as documents: an error for each failure, and itself. -/
theorem screen_of_json
    (h : f.json = true)
    (r : Removal) :
    r.screen f =
      (r.failures.map fun failure =>
        .document .messages
          (.object [("error", .string (failureText failure))])) ++
        [.document .results r.toValue] := by
  rw [screen, if_pos h]
  exact
    congrArg (fun said : Screen => said ++ _)
      (outcomes_of_json h r.place r.outcomes)

theorem screen_of_lines
    (h : f.json = false)
    (r : Removal) :
    r.screen f =
      r.outcomes.flatMap
        (fun x => outcomeScreen f r.place x.1 x.2) := by
  rw [screen, h, if_neg Bool.false_ne_true, List.append_nil]

theorem on_results_of_json
    (h : f.json = true)
    (r : Removal) :
    (r.screen f).on .results = [.document .results r.toValue] := by
  have hErrors (failure : String × Error) :
      (Output.document .messages
        (.object
          [("error", .string (failureText failure))])).channel =
        .messages :=
    rfl
  rw [screen_of_json h, Screen.on_append,
    Screen.on_map_of_other_channel hErrors Channel.noConfusion]
  rfl

theorem on_messages_of_json
    (h : f.json = true)
    (r : Removal) :
    (r.screen f).on .messages =
      r.failures.map fun failure =>
        .document .messages
          (.object [("error", .string (failureText failure))]) := by
  have hErrors (failure : String × Error) :
      (Output.document .messages
        (.object
          [("error", .string (failureText failure))])).channel =
        .messages :=
    rfl
  rw [screen_of_json h, Screen.on_append,
    Screen.on_map_of_channel hErrors]
  exact List.append_nil _

/- The screen of a removal tells of it. -/
theorem shownAs_screen
    (r : Removal)
    (f : Formatter) : r.ShownAs f (r.screen f) where
  document h :=
    ⟨r.toValue, on_results_of_json h r, r.writtenAs_toValue⟩
  error_documents h := on_messages_of_json h r
  lines h := by
    rw [screen_of_lines h]
    exact (outcomes_of_lines h r.place r.outcomes).1
  error_lines h := by
    rw [screen_of_lines h]
    exact (outcomes_of_lines h r.place r.outcomes).2

end Removal

end StorageRouting

------------------------------------------------------------
-- Removing
------------------------------------------------------------

namespace StorageRouting

namespace Removal

variable {σ : Type}

/- The call that asked to remove a key. -/
def deletion
    (backend bucket : String)
    (x : String × Except Error Unit) : BackendCall :=
  .call backend (.delete bucket x.1) (x.2.map (fun _ => .done))

/-
  A removal went through keys: the backend was asked once to
  remove each of them, in the given order and nothing else, and
  the two lists tell what came of that.
-/
structure GoesThrough
    (r : Removal)
    (keys : List String)
    (backend : String)
    (calls : List BackendCall) : Prop where
  keys_eq : r.outcomes.map Prod.fst = keys
  calls_eq : calls = r.outcomes.map (deletion backend r.place.bucket)
  splits : Splits r.outcomes r.deleted r.failures
  deleted_sublist : r.deleted.Sublist keys
  failed_sublist : (r.failures.map Prod.fst).Sublist keys

theorem removeAll_cons
    (remove : String → Action σ Unit)
    (key : String)
    (rest : List String)
    (s : σ) :
    removeAll remove (key :: rest) s =
      ((key, (remove key s).1) ::
        (removeAll remove rest (remove key s).2).1,
      (removeAll remove rest (remove key s).2).2) :=
  rfl

theorem map_fst_removeAll
    (remove : String → Action σ Unit)
    (keys : List String)
    (s : σ) : (removeAll remove keys s).1.map Prod.fst = keys := by
  induction keys generalizing s with
  | nil => rfl
  | cons key rest ih =>
      rw [removeAll_cons, List.map_cons, ih]

/-
  Keys are removed one after the other, whatever fails.  Noting
  these calls changes nothing.
-/
theorem removeAll_noting
    (a : Adapter σ)
    (name bucket : String)
    (keys : List String)
    (s : σ)
    (log : List BackendCall) :
    removeAll ((a.noting name).delete bucket) keys (s, log) =
      ((removeAll (a.delete bucket) keys s).1,
        (removeAll (a.delete bucket) keys s).2,
        log ++
          (removeAll (a.delete bucket) keys s).1.map
            (deletion name bucket)) := by
  induction keys generalizing s log with
  | nil => simp [removeAll]
  | cons key rest ih =>
      -- the first call is noted before those of the other keys
      have hCall :
          (a.noting name).delete bucket key (s, log) =
            ((a.delete bucket key s).1, (a.delete bucket key s).2,
              log ++
                [deletion name bucket
                  (key, (a.delete bucket key s).1)]) :=
        rfl
      simp only [removeAll_cons, hCall, ih, List.map_cons,
        List.append_assoc, List.singleton_append]

/- A key is removed by the backend of the place. -/
theorem remove_of_adapter
    {r : StorageClient.Route σ}
    {a : Adapter σ}
    {b : String}
    (hAdapter : r.adapter = .ok a)
    (hBucket : BucketMapper.usual a.config (some b) = some b) :
    StorageClient.standard.remove r (some b) = a.delete b := by
  have hTarget :
      StorageClient.standard.target r (some b) = .ok (a, b) := by
    have hMapper :
        StorageClient.standard.bucketMapper a.config (some b) =
          some b :=
      hBucket
    simp only [StorageClient.target, hAdapter, hMapper]
  funext key s
  simp only [StorageClient.remove, StorageClient.withTarget, hTarget]
  rfl

/- The route of the command. -/
def route
    (session : Session σ)
    (keys : List String)
    (bucket : Option String) : StorageClient.Route σ :=
  session.route
    (session.invocation "rm"
      [("keys", .ofStrings keys), ("bucket", .ofString? bucket)])

variable
  {session : Session σ}
  {keys : List String}
  {bucket : Option String}

/- Without a place, the command ends with the error. -/
theorem run_of_no_place
    {e : Error}
    (h : Session.placeOf (route session keys bucket) bucket =
      .error e)
    (f : Formatter)
    (w : World σ) :
    run session f keys bucket w =
      Job.report f "Failed to remove objects" e
        (session.warned w) := by
  have hTake :
      take (route session keys bucket) keys bucket w.backends =
        (.error e, w.backends) := by
    unfold take
    rw [h]
    rfl
  have hAsk :
      Job.ask (take (route session keys bucket) keys bucket)
          (session.warned w) =
        (some (.error e), session.warned w) := by
    unfold Job.ask
    rw [session.backends_warned w, hTake]
    rfl
  exact
    (Job.bind_of_some (session.direct_eq "rm" _ w) _).trans
      (Job.bind_of_some hAsk _)

/- With a place, the command tells of the removal of its keys. -/
theorem run_of_place
    {place : Place}
    (h : Session.placeOf (route session keys bucket) bucket =
      .ok place)
    (f : Formatter)
    (w : World σ) :
    run session f keys bucket w =
      let removed :=
        removeAll
          (StorageClient.standard.remove (route session keys bucket)
            (some place.bucket)) keys w.backends
      let r : Removal := ⟨place, removed.1⟩
      (some r.code,
        { w with
          backends := removed.2
          screen := (session.warned w).screen ++ r.screen f }) := by
  let removed :=
    removeAll
      (StorageClient.standard.remove (route session keys bucket)
        (some place.bucket)) keys w.backends
  let r : Removal := ⟨place, removed.1⟩
  have hTake :
      take (route session keys bucket) keys bucket w.backends =
        (.ok r, removed.2) := by
    unfold take
    rw [h]
    rfl
  have hAsk :
      Job.ask (take (route session keys bucket) keys bucket)
          (session.warned w) =
        (some (.ok r),
          { session.warned w with backends := removed.2 }) := by
    unfold Job.ask
    rw [session.backends_warned w, hTake]
  exact
    (Job.bind_of_some (session.direct_eq "rm" _ w) _).trans
      (Job.bind_of_some hAsk _)

/-
  The removal of keys from a bucket of a backend, and the state
  after it.
-/
def carried
    (a : Adapter σ)
    (b : String)
    (keys : List String)
    (s : σ) : Removal × σ :=
  (⟨⟨a.name, b⟩, (removeAll (a.delete b) keys s).1⟩,
    (removeAll (a.delete b) keys s).2)

/- With a backend and a bucket, it tells of what they did. -/
theorem run_of_target
    {a : Adapter σ}
    {b : String}
    (hAdapter : (route session keys bucket).adapter = .ok a)
    (hBucket : BucketMapper.usual a.config bucket = some b)
    (f : Formatter)
    (w : World σ) :
    run session f keys bucket w =
      (some (carried a b keys w.backends).1.code,
        { w with
          backends := (carried a b keys w.backends).2
          screen :=
            (session.warned w).screen ++
              (carried a b keys w.backends).1.screen f }) := by
  have hPlace :
      Session.placeOf (route session keys bucket) bucket =
        .ok ⟨a.name, b⟩ := by
    rw [Session.placeOf_of_ok hAdapter, hBucket]
  have hRemove :
      StorageClient.standard.remove (route session keys bucket)
        (some b) = a.delete b :=
    remove_of_adapter hAdapter (BucketMapper.usual_some hBucket)
  rw [run_of_place hPlace]
  simp only [hRemove]
  rfl

/- The noted calls of a removal are those of its keys, in order. -/
theorem goesThrough_carried
    (a : Adapter σ)
    (name b : String)
    (keys : List String)
    (s : σ) :
    let r := (carried a b keys s).1
    carried (a.noting name) b keys (s, []) =
        (r, (carried a b keys s).2,
          r.outcomes.map (deletion name b)) ∧
      r.GoesThrough keys name
        (r.outcomes.map (deletion name b)) := by
  intro r
  have hKeys : r.outcomes.map Prod.fst = keys :=
    map_fst_removeAll (a.delete b) keys s
  constructor
  · simp only [carried, removeAll_noting, List.nil_append]
    rfl
  · exact
      { keys_eq := hKeys
        calls_eq := rfl
        splits := r.splits
        deleted_sublist := hKeys ▸ r.splits.deleted_sublist
        failed_sublist := hKeys ▸ r.splits.failed_sublist }

/-
  The keys are removed one after the other by the backend that
  the route leads to, and what came of each of them is shown.
  When it leads to none, or to one without a bucket for the
  command, no backend is asked for anything.  Noting the calls
  changes nothing.
-/
theorem run_goes_through
    (session : Session σ)
    (f : Formatter)
    (keys : List String)
    (bucket : Option String)
    (w : World σ) :
    let r := route session keys bucket
    ∃ (code : ExitCode) (after : World σ) (calls : List BackendCall),
      run session f keys bucket w = (some code, after) ∧
      run session.noting f keys bucket (w.noted []) =
        (some code, after.noted calls) ∧
      (∀ e,
        (r.adapter = .error e ∨
          ∃ a, r.adapter = .ok a ∧
            BucketMapper.usual a.config bucket = none ∧
            e = StorageClient.noBucket a.name) →
        calls = [] ∧
        after.backends = w.backends ∧
        code.number = e.exitCode ∧
        code ≠ .success) ∧
      ∀ a b,
        r.adapter = .ok a →
        BucketMapper.usual a.config bucket = some b →
        ∃ (name : String) (removal : Removal) (shown : Screen),
          session.registry.get? name = some a ∧
          removal.place = ⟨a.name, b⟩ ∧
          removal.GoesThrough keys name calls ∧
          removal.EndsWith code ∧
          after.screen = (session.warned w).screen ++ shown ∧
          removal.ShownAs f shown := by
  intro r
  have hSame :
      Session.placeOf (route session.noting keys bucket) bucket =
        Session.placeOf r bucket :=
    session.placeOf_noting _ bucket
  cases hPlace : Session.placeOf r bucket with
  | error e =>
      rw [hPlace] at hSame
      rw [run_of_no_place hPlace, run_of_no_place hSame]
      refine ⟨.ofError e, _, [], rfl, rfl, ?_, ?_⟩
      · intro e' hNone
        rw [← Session.placeOf_eq_error_iff, hPlace] at hNone
        cases hNone
        exact
          ⟨rfl, rfl, ExitCode.number_ofError e,
            ExitCode.ofError_ne_success e⟩
      · intro a b hAdapter hBucket
        rw [Session.placeOf_of_ok hAdapter, hBucket] at hPlace
        cases hPlace
  | ok place =>
      rcases Session.placeOf_eq_ok_iff.mp hPlace with
        ⟨a, hAdapter, _, hBucket⟩
      rcases session.adapter_noting
          (session.invocation "rm"
            [("keys", .ofStrings keys),
              ("bucket", .ofString? bucket)]) with
        ⟨e, hNone, _⟩ | ⟨name, a', hFound, hName, hNoting⟩
      · cases hAdapter.symm.trans hNone
      · cases hAdapter.symm.trans hFound
        rcases goesThrough_carried a name place.bucket keys
            w.backends with ⟨hCarried, hThrough⟩
        have hNoted :
            run session.noting f keys bucket (w.noted []) = _ :=
          run_of_target hNoting hBucket f (w.noted [])
        rw [run_of_target hAdapter hBucket, hNoted]
        have hWorld : (w.noted []).backends = (w.backends, []) := rfl
        rw [hWorld, hCarried]
        refine ⟨_, _, _, rfl, rfl, ?_, ?_⟩
        · intro e hNone
          rw [← Session.placeOf_eq_error_iff, hPlace] at hNone
          cases hNone
        · intro a' b hAdapter' hBucket'
          cases hAdapter.symm.trans hAdapter'
          cases hBucket.symm.trans hBucket'
          exact
            ⟨name, (carried a place.bucket keys w.backends).1, _,
              hName, rfl, hThrough, code_endsWith _, rfl,
              shownAs_screen _ f⟩

/- A session with one backend, which removes only some keys. -/
def pickySession : Session MemoryStore :=
  let picky : Adapter MemoryStore :=
    { MemoryStore.adapter Slot.whole (fun _ => default)
        { BackendConfig.blank with
          name := "one", defaultBucket := some "own" } with
      delete := fun _ key s =>
        (if key = "b" then .error (.notFound key)
          else if key = "c" then .error (.config key)
          else .ok (), s) }
  .ofRegistry ((Registry.new "one" false).register "one" picky).2
    (fun _ => default) ""

/-
  Of these keys two are removed and three are not, one of them
  asked for twice.  Each of them has its own error, and the exit
  code is that of the first one.
-/
theorem pickySession_goes_through :
    let w : World MemoryStore :=
      ⟨MemoryStore.empty "one", FileTree.empty, []⟩
    let keys := ["a", "b", "c", "d", "b"]
    let failed (key : String) (e : Error) : Value :=
      .object [("key", .string key), ("error", .string e.message)]
    ∃ (after : World MemoryStore) (calls : List BackendCall)
        (removal : Removal) (v : Value),
      run pickySession ⟨true, false, false⟩ keys none w =
        (some .notFound, after) ∧
      removal.GoesThrough keys "one" calls ∧
      after.screen.on .results = [.document .results v] ∧
      removal.WrittenAs v ∧
      v.field? "failed" =
        some
          (.array
            [failed "b" (.notFound "b"), failed "c" (.config "c"),
              failed "b" (.notFound "b")]) ∧
      removal.deleted = ["a", "d"] := by
  intro w keys failed
  rcases run_goes_through pickySession ⟨true, false, false⟩ keys none
      w with
    ⟨code, after, calls, hRun, _, _, hThrough⟩
  rcases hThrough _ _ rfl rfl with
    ⟨name, removal, shown, hName, _, hKeys, _, hScreen, hShown⟩
  rcases hShown.document rfl with ⟨v, hResults, hWritten⟩
  have hOne : name = "one" := by
    have hEntry := Dictionary.get?_eq_some_iff.mp hName
    cases List.mem_singleton.mp hEntry
    rfl
  have hPrinted : after.screen = shown := hScreen
  rw [← hPrinted] at hResults
  -- what is printed is known from the run itself
  cases hRun
  cases (List.cons.inj hResults).1
  have hDeleted :
      removal.deleted.map Value.string =
        ["a", "d"].map Value.string :=
    Value.array.inj (Option.some.inj hWritten.deleted.symm)
  have hString (s t : String) :
      Value.string s = Value.string t → s = t :=
    Value.string.inj
  exact
    ⟨_, calls, removal, _, rfl, hOne ▸ hKeys, rfl, hWritten, rfl,
      (List.map_inj_right hString).mp hDeleted⟩

end Removal

end StorageRouting
