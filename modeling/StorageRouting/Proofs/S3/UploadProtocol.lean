import StorageRouting.Proofs.S3.Deposits

/-
  Objects are stored as the protocol has it.

  Key definitions include:
    * `S3Connection.partService`

  Main statements:
    * `S3Connection.uploadFrom_comes`
    * `S3Connection.putInParts_comes`
    * `S3Connection.Deposits.in_two_parts`
    * `S3Connection.put_follows_protocol`
-/

------------------------------------------------------------
-- Calls of an Upload
------------------------------------------------------------

namespace StorageRouting

namespace S3Connection

variable {σ : Type} {c : S3Connection σ}
variable {subject : Subject} {contentType : Option String}

theorem isWritable_partSending
    (id : String)
    (number : Nat)
    (part : Bytes) :
    (partSending id number part).isWritable = true := by
  have hType : Header.isValue Sending.bytesType = true := by decide
  have hLength := Header.isValue_toString part.size
  simp only [partSending, Sending.isWritable, Sending.length,
    Sending.type, List.all_cons, List.all_nil, hLength, hType,
    Bool.and_true]

theorem isWritable_completeSending
    (id : String)
    (parts : List StoredPart) :
    (completeSending id parts).isWritable = true := by
  have hType : Header.isValue Sending.documentType = true := by decide
  simp only [completeSending, Sending.isWritable, Sending.length,
    Sending.type, List.all_cons, List.all_nil,
    Header.isValue_toString, hType, Bool.and_true]

theorem isWritable_openSending_iff :
    (openSending contentType).isWritable = true ↔
      ∀ t ∈ contentType, Header.isValue t = true := by
  cases contentType with
  | none => simp [openSending, Sending.isWritable, Sending.bare]
  | some t => simp [openSending, Sending.isWritable, Sending.type]

theorem isWritable_wholeSending_iff
    (data : Bytes) :
    (wholeSending data contentType).isWritable = true ↔
      ∀ t ∈ contentType, Header.isValue t = true := by
  have hType : Header.isValue Sending.bytesType = true := by decide
  simp only [wholeSending, Sending.isWritable, Sending.length,
    Sending.type, List.all_cons, List.all_nil,
    Header.isValue_toString, Bool.true_and, Bool.and_true]
  cases contentType with
  | none => simp [hType]
  | some t => simp

/- Storing a part is one exchange, and tells what it stores. -/
theorem uploadPart_comes
    (hReach : c.Reaches subject contentType)
    {id : String}
    (hId : id ≠ "")
    (number : Nat)
    (part : Bytes)
    (s : σ) :
    ∃ x t answer,
      c.Comes (fun _ c => c.uploadPart subject id number part) s [x]
        answer t ∧
      x.request.StoresPart c.config subject id number part ∧
      answer.toOption = x.storedPart? number := by
  rcases exists_uploadExchange hReach
      (isWritable_partSending id number part) hId .uploadPart s with
    ⟨x, t, hCarries, hSent⟩
  have hGranted := x.granted?_eq .uploadPart rfl
  cases hOutcome : x.outcome .uploadPart with
  | error f =>
      rw [hOutcome] at hSent hGranted
      refine ⟨x, t, .error (putError subject f), hSent.run ?_,
        hCarries.storesPart, ?_⟩
      · intro τ d u v h
        simp only [uploadPart, h]
      · rw [Exchange.storedPart?, hGranted]
        rfl
  | ok r =>
      rw [hOutcome] at hSent hGranted
      refine ⟨x, t, .ok ⟨number, r.header? "etag"⟩, hSent.run ?_,
        hCarries.storesPart, ?_⟩
      · intro τ d u v h
        simp only [uploadPart, h]
      · rw [Exchange.storedPart?, hGranted]
        rfl

/- Opening an upload is one exchange, and tells its number. -/
theorem openUpload_comes
    (hReach : c.Reaches subject contentType)
    (s : σ) :
    ∃ x t answer,
      c.Comes (fun _ c => c.openUpload subject contentType) s [x]
        answer t ∧
      x.request.OpensUpload c.config subject contentType ∧
      answer.toOption = x.uploadId? := by
  rcases exists_exchange hReach
      (isWritable_openSending_iff.mpr hReach.typed) .createUpload s with
    ⟨x, t, hCarries, hSent⟩
  have hGranted := x.granted?_eq .createUpload rfl
  cases hOutcome : x.outcome .createUpload with
  | error f =>
      rw [hOutcome] at hSent hGranted
      refine ⟨x, t, .error (putError subject f), hSent.run ?_,
        hCarries.opensUpload, ?_⟩
      · intro τ d u v h
        simp only [openUpload, call, h]
      · rw [Exchange.uploadId?, hGranted]
        rfl
  | ok r =>
      rw [hOutcome] at hSent hGranted
      have hNumber :
          x.uploadId? = (UploadNote.opened? r.body).bind (·.id) := by
        rw [Exchange.uploadId?, hGranted]
        rfl
      cases hNote : UploadNote.opened? r.body with
      | none =>
          refine ⟨x, t,
            .error (putError subject (ServiceCall.unreadable r)),
            hSent.run ?_, hCarries.opensUpload, ?_⟩
          · intro τ d u v h
            simp only [openUpload, call, h, hNote]
          · rw [hNumber, hNote]
            rfl
      | some note =>
          rcases note with ⟨id?, tag⟩
          cases id? with
          | none =>
              refine ⟨x, t,
                .error
                  (.backendOperationFailed
                    ("No upload id returned for " ++
                      subject.bucket ++ "/" ++
                        subject.key.getD "")),
                hSent.run ?_, hCarries.opensUpload, ?_⟩
              · intro τ d u v h
                simp only [openUpload, call, h, hNote]
              · rw [hNumber, hNote]
                rfl
          | some id =>
              refine ⟨x, t, .ok id, hSent.run ?_,
                hCarries.opensUpload, ?_⟩
              · intro τ d u v h
                simp only [openUpload, call, h, hNote]
              · rw [hNumber, hNote]
                rfl

/- Completing an upload is one exchange. -/
theorem completeUpload_comes
    (hReach : c.Reaches subject contentType)
    {id : String}
    (hId : id ≠ "")
    (parts : List StoredPart)
    (s : σ) :
    ∃ x t answer,
      c.Comes (fun _ c => c.completeUpload subject id parts) s [x]
        answer t ∧
      x.request.CompletesUpload c.config subject id parts ∧
      answer.toOption.isSome = x.completes := by
  rcases exists_uploadExchange hReach
      (isWritable_completeSending id parts) hId .completeUpload s with
    ⟨x, t, hCarries, hSent⟩
  have hGranted := x.granted?_eq .completeUpload rfl
  cases hOutcome : x.outcome .completeUpload with
  | error f =>
      rw [hOutcome] at hSent hGranted
      refine ⟨x, t, .error (putError subject f), hSent.run ?_,
        hCarries.completesUpload, ?_⟩
      · intro τ d u v h
        simp only [completeUpload, h]
      · rw [Exchange.completes, hGranted]
        rfl
  | ok r =>
      rw [hOutcome] at hSent hGranted
      have hComplete :
          x.completes = (UploadNote.completed? r.body).isSome := by
        rw [Exchange.completes, hGranted]
        rfl
      cases hNote : UploadNote.completed? r.body with
      | none =>
          refine ⟨x, t,
            .error (putError subject (ServiceCall.unreadable r)),
            hSent.run ?_, hCarries.completesUpload, ?_⟩
          · intro τ d u v h
            simp only [completeUpload, h, hNote]
          · rw [hComplete, hNote]
            rfl
      | some note =>
          refine ⟨x, t, .ok (note.tag.map ObjectInfo.bareTag),
            hSent.run ?_, hCarries.completesUpload, ?_⟩
          · intro τ d u v h
            simp only [completeUpload, h, hNote]
          · rw [hComplete, hNote]
            rfl

/- Giving an upload up is one exchange, and tells nothing. -/
theorem abortUpload_comes
    (hReach : c.Reaches subject contentType)
    {id : String}
    (hId : id ≠ "")
    (s : σ) :
    ∃ x t,
      c.abortUpload subject id s = t ∧
      (∀ log : List Exchange,
        c.noting.abortUpload subject id (s, log) =
          (t, log ++ [x])) ∧
      c.Answered s [x] t ∧
      x.request.AbortsUpload c.config subject id := by
  have hWritable : (abortSending id).isWritable = true := rfl
  rcases exists_uploadExchange hReach hWritable hId .abortUpload s
    with ⟨x, t, hCarries, hSent⟩
  exact
    ⟨x, t, congrArg Prod.snd hSent.own,
      fun log => congrArg Prod.snd (hSent.noted log),
      hSent.answered, hCarries.abortsUpload⟩

/- Storing a whole object is one exchange. -/
theorem putWhole_comes
    (hReach : c.Reaches subject contentType)
    (data : Bytes)
    (s : σ) :
    ∃ x t answer,
      c.Comes (fun _ c => c.putWhole subject data contentType) s [x]
        answer t ∧
      x.request.StoresWhole c.config subject data contentType ∧
      answer.toOption.isSome = x.stores := by
  rcases exists_exchange hReach
      ((isWritable_wholeSending_iff data).mpr hReach.typed)
      .putObject s with
    ⟨x, t, hCarries, hSent⟩
  have hGranted := x.granted?_eq .putObject rfl
  cases hOutcome : x.outcome .putObject with
  | error f =>
      rw [hOutcome] at hSent hGranted
      refine ⟨x, t, .error (putError subject f), hSent.run ?_,
        hCarries.storesWhole, ?_⟩
      · intro τ d u v h
        simp only [putWhole, h]
      · rw [Exchange.stores, hGranted]
        rfl
  | ok r =>
      rw [hOutcome] at hSent hGranted
      refine ⟨x, t, .ok ((r.header? "etag").map ObjectInfo.bareTag),
        hSent.run ?_, hCarries.storesWhole, ?_⟩
      · intro τ d u v h
        simp only [putWhole, h]
      · rw [Exchange.stores, hGranted]
        rfl

end S3Connection

end StorageRouting

------------------------------------------------------------
-- Storing All Parts
------------------------------------------------------------

namespace StorageRouting

namespace S3Connection

variable {σ : Type} {c : S3Connection σ}
variable {subject : Subject} {contentType : Option String}
variable {size : Nat} {body : Body} {id : String}

/-
  A part and all that follow are stored, or the exchanges break
  off.  The induction is on the limit, which what is left of the
  body never reaches.
-/
theorem uploadFrom_comes
    (hReach : c.Reaches subject contentType)
    (hId : id ≠ "")
    (hSize : 0 < size)
    (limit : Nat)
    {xs : List Exchange}
    {parts : List StoredPart}
    {part : Bytes}
    {source : PartSource}
    (h : c.Uploading subject size body id xs parts part source)
    (hLimit : source.rest.length < limit)
    (s : σ) :
    ∃ answer t ys,
      c.Comes
        (fun _ c =>
          c.uploadFrom size subject id limit parts
            (xs.length * size) part source)
        s ys answer t ∧
      c.UploadEnds subject size body id (xs ++ ys) answer := by
  induction limit generalizing xs parts part source s with
  | zero => exact absurd hLimit (Nat.not_lt_zero _)
  | succ limit ih =>
      have hCount : parts.length = xs.length := h.uploaded.length_eq
      rcases uploadPart_comes hReach hId (parts.length + 1) part s
        with ⟨x, t, stored, hSent, hAsks, hStored⟩
      rw [hCount] at hAsks hStored
      have hAsked := h.asksPart hAsks
      cases stored with
      | error e =>
          -- the part is refused
          refine ⟨.error e, t, [x], hSent.run ?_,
            .breaks (.refused h.uploaded hAsked hStored.symm)⟩
          intro τ d u v hPart
          simp only [uploadFrom, hPart]
      | ok p =>
          have hUploaded := h.uploaded.concat hAsked hStored.symm
          rcases hNext : source.next size with ⟨answer, source'⟩
          rcases h.next hSize hUploaded hNext with
            ⟨part', rfl, hUploading, hFull, hLess⟩ |
              ⟨rfl, hCovers, hTotal⟩ | ⟨e, rfl, hBreaks⟩
          · have hTotal :
                (xs ++ [x]).length * size =
                  xs.length * size + part.size := by
              rw [List.length_append, List.length_singleton,
                Nat.succ_mul, hFull]
            rcases ih hUploading (by omega) t with
              ⟨answer', t', ys, hRest, hEnds⟩
            rw [hTotal] at hRest
            rw [List.append_assoc] at hEnds
            refine ⟨answer', t', [x] ++ ys, hSent.seq hRest ?_, hEnds⟩
            intro τ d u v w hPart hMore
            simp only [uploadFrom, hPart, hNext, hMore]
          · refine ⟨.ok (parts ++ [p], body.arrived.length), t, [x],
              hSent.run ?_, .covers hCovers⟩
            intro τ d u v hPart
            simp only [uploadFrom, hPart, hNext, hTotal]
          · refine ⟨.error e, t, [x], hSent.run ?_, .breaks hBreaks⟩
            intro τ d u v hPart
            simp only [uploadFrom, hPart, hNext]

/- The length is checked as it is announced. -/
theorem Subject.checkLength_cases
    (subject : Subject)
    (expected : Option Nat)
    (actual : Nat) :
    (subject.checkLength expected actual = .ok () ∧
      ∀ n ∈ expected, n = actual) ∨
    (∃ e,
      subject.checkLength expected actual = .error e ∧
      ∃ n ∈ expected, n ≠ actual) := by
  cases expected with
  | none => exact Or.inl ⟨rfl, fun n hn => nomatch hn⟩
  | some n =>
      by_cases hSame : n = actual
      · refine Or.inl ⟨if_pos hSame, ?_⟩
        intro m hm
        cases hm
        exact hSame
      · exact Or.inr ⟨_, if_neg hSame, n, rfl, hSame⟩

end S3Connection

end StorageRouting

------------------------------------------------------------
-- Storing an Object
------------------------------------------------------------

namespace StorageRouting

namespace S3Connection

variable {σ : Type} {c : S3Connection σ}
variable {subject : Subject} {contentType : Option String}
variable {size : Nat} {body : Body} {expected : Option Nat}

/-
  Storing the parts under a number ends with the whole body
  stored and measured, or with a reason to give the upload up.
-/
theorem uploadParts_comes
    (hReach : c.Reaches subject contentType)
    {id : String}
    (hId : id ≠ "")
    (hSize : 0 < size)
    {first : Bytes}
    {source : PartSource}
    (h : c.Uploading subject size body id [] [] first source)
    (expected : Option Nat)
    (s : σ) :
    ∃ answer t xs,
      c.Comes
        (fun _ c => c.uploadParts size subject id first source expected)
        s xs answer t ∧
      ((∃ parts,
          answer = .ok (parts, body.arrived.length) ∧
          c.Covers subject size body id xs parts ∧
          ∀ n ∈ expected, n = body.arrived.length) ∨
        (∃ e,
          answer = .error e ∧
          c.Abandons subject size body expected id xs)) := by
  have hLimit : source.rest.length < source.bound + 1 :=
    Nat.lt_succ_of_le source.length_rest_le_bound
  rcases uploadFrom_comes hReach hId hSize _ h hLimit s with
    ⟨answer, t, xs, hRun, hEnds⟩
  have hStart : ([] : List Exchange).length * size = 0 :=
    Nat.zero_mul size
  rw [hStart] at hRun
  cases hEnds with
  | covers hCovers =>
      rename_i parts
      rcases Subject.checkLength_cases subject expected
          body.arrived.length with
        ⟨hChecked, hRight⟩ | ⟨e, hChecked, hWrong⟩
      · refine ⟨.ok (parts, body.arrived.length), t, xs, hRun.run ?_,
          Or.inl ⟨parts, rfl, hCovers, hRight⟩⟩
        intro τ d u v hFrom
        simp only [uploadParts, hFrom, hChecked]
      · refine ⟨.error e, t, xs, hRun.run ?_,
          Or.inr ⟨e, rfl, .mismeasured hCovers hWrong⟩⟩
        intro τ d u v hFrom
        simp only [uploadParts, hFrom, hChecked]
  | breaks hBreaks =>
      rename_i e
      refine ⟨.error e, t, xs, hRun.run ?_,
        Or.inr ⟨e, rfl, .breaks hBreaks⟩⟩
      intro τ d u v hFrom
      simp only [uploadParts, hFrom]

/- An upload that has no number stores nothing. -/
theorem uploadParts_of_empty
    (c : S3Connection σ)
    (size : Nat)
    (subject : Subject)
    (first : Bytes)
    (source : PartSource)
    (expected : Option Nat)
    (s : σ) :
    c.uploadParts size subject "" first source expected s =
      (.error (putError subject .unmade), s) := by
  unfold uploadParts uploadFrom uploadPart
  simp only [sendUpload_of_empty]

/- An upload that was opened is completed or given up. -/
theorem putInParts_of_opened
    (hReach : c.Reaches subject contentType)
    (hSize : 0 < size)
    {first : Bytes}
    {source : PartSource}
    {id : String}
    (hUploading :
      c.Uploading subject size body id [] [] first source)
    (hLong : size ≤ body.arrived.length)
    (hId : id ≠ "")
    {opening : Exchange}
    {s t : σ}
    (hOpen :
      c.Comes (fun _ c => c.openUpload subject contentType) s
        [opening] (.ok id) t)
    (hOpening :
      opening.request.OpensUpload c.config subject contentType)
    (hNumber : opening.uploadId? = some id) :
    ∃ answer u xs,
      c.Comes
        (fun _ c =>
          c.putInParts size subject first source expected contentType)
        s xs answer u ∧
      c.Deposits subject size body expected contentType xs
        (answer.map (fun r => some (r.1 : Int))) := by
  rcases uploadParts_comes hReach hId hSize hUploading expected t with
    ⟨stored, t', xs, hParts, hEnds⟩
  have hSent := hOpen.answered.append hParts.answered
  rcases hEnds with
    ⟨parts, rfl, hCovers, hRight⟩ | ⟨e, rfl, hAbandons⟩
  · rcases completeUpload_comes hReach hId parts t' with
      ⟨x, t'', answer, hComplete, hAsks, hCompletes⟩
    have hSent' := hSent.append hComplete.answered
    cases answer with
    | ok tag =>
        refine ⟨.ok (body.arrived.length, tag), t'', _,
          ⟨?_, ?_, hSent'⟩,
          .completed hLong hOpening hNumber hId hCovers hRight hAsks
            hCompletes.symm⟩
        · simp only [putInParts, hOpen.own, hParts.own, hComplete.own]
        · intro log
          simp only [putInParts, hOpen.noted, hParts.noted,
            hComplete.noted, List.append_assoc]
    | error e =>
        rcases abortUpload_comes hReach hId t'' with
          ⟨abort, u, hOwn, hNoted, hAbort, hAborts⟩
        refine ⟨.error e, u, opening :: (xs ++ [x]) ++ [abort],
          ⟨?_, ?_, ?_⟩,
          .abandoned hLong hOpening hNumber hId
            (.refused hCovers hRight hAsks hCompletes.symm) hAborts⟩
        · simp only [putInParts, hOpen.own, hParts.own,
            hComplete.own, hOwn]
        · intro log
          simp only [putInParts, hOpen.noted, hParts.noted,
            hComplete.noted, hNoted, List.append_assoc,
            List.cons_append, List.nil_append]
        -- the refused completion is sent before the abort
        · have hAll := hSent'.append hAbort
          rwa [List.append_assoc [opening] xs [x]] at hAll
  · rcases abortUpload_comes hReach hId t' with
      ⟨abort, u, hOwn, hNoted, hAbort, hAborts⟩
    refine ⟨.error e, u, _, ⟨?_, ?_, hSent.append hAbort⟩,
      .abandoned hLong hOpening hNumber hId hAbandons hAborts⟩
    · simp only [putInParts, hOpen.own, hParts.own, hOwn]
    · intro log
      simp only [putInParts, hOpen.noted, hParts.noted, hNoted,
        List.append_assoc]

/- An upload is opened, and completed or given up. -/
theorem putInParts_comes
    (hReach : c.Reaches subject contentType)
    (hSize : 0 < size)
    {first : Bytes}
    {source : PartSource}
    (hLong : size ≤ body.arrived.length)
    (hFirst : first = slice size body 0)
    (hRest : source.rest = body.arrived.drop size)
    (hFailure : source.failure? = body.failure?)
    (s : σ) :
    ∃ answer t xs,
      c.Comes
        (fun _ c =>
          c.putInParts size subject first source expected contentType)
        s xs answer t ∧
      c.Deposits subject size body expected contentType xs
        (answer.map (fun r => some (r.1 : Int))) := by
  rcases openUpload_comes hReach s with
    ⟨opening, t, opened, hOpen, hOpening, hOpened⟩
  cases opened with
  | error e =>
      refine ⟨.error e, t, [opening], hOpen.run ?_, ?_⟩
      · intro τ d u v hFailed
        simp only [putInParts, hFailed]
      · apply Deposits.unopened hLong hOpening
        rw [← hOpened]
        intro id hId
        cases hId
  | ok id =>
      have hNumber : opening.uploadId? = some id := hOpened.symm
      by_cases hId : id = ""
      -- no request about an upload can be made without its number
      · subst hId
        refine ⟨.error (putError subject .unmade), t, [opening],
          hOpen.run ?_, ?_⟩
        · intro τ d u v hUnnamed
          simp only [putInParts, hUnnamed, uploadParts_of_empty,
            abortUpload, sendUpload_of_empty]
        · apply Deposits.unopened hLong hOpening
          rw [hNumber]
          intro id hSome
          exact (Option.some.inj hSome).symm
      · have hUploading :
            c.Uploading subject size body id [] [] first source :=
          Uploading.start hLong hSize hFirst hRest hFailure
        exact
          putInParts_of_opened hReach hSize hUploading hLong hId hOpen
            hOpening hNumber

end S3Connection

end StorageRouting

------------------------------------------------------------
-- The First Part
------------------------------------------------------------

namespace StorageRouting

/-
  What asking for the first part of a body can come to: the whole
  of a short body, the first slice of a long one, or a failure.
-/
theorem PartSource.first_cases
    {size : Nat}
    (hSize : 0 < size)
    (body : Body) :
    (∃ first? source,
      (ofBody body).next size = (.ok first?, source) ∧
      first?.getD Bytes.empty = Bytes.ofList body.arrived ∧
      body.arrived.length < size ∧
      body.failure? = none) ∨
    (∃ first source,
      (ofBody body).next size = (.ok (some first), source) ∧
      first = S3Connection.slice size body 0 ∧
      size ≤ body.arrived.length ∧
      source.rest = body.arrived.drop size ∧
      source.failure? = body.failure?) ∨
    (∃ e source,
      (ofBody body).next size = (.error e, source) ∧
      body.arrived.length < size ∧
      body.failure? = some e) := by
  have hYields := (ofBody body).next_yields hSize
  rcases hNext : (ofBody body).next size with ⟨answer, source⟩
  rw [hNext] at hYields
  cases hYields with
  | part hBytes hSome hShort hRest hFailure =>
      rename_i first
      rw [rest_ofBody] at hBytes hShort hRest
      by_cases hLong : size ≤ body.arrived.length
      · refine Or.inr (Or.inl
          ⟨first, source, rfl, ?_, hLong, hRest, hFailure⟩)
        rw [S3Connection.slice, Nat.zero_mul, List.drop_zero,
          ← hBytes, Bytes.ofList_toList]
      · have hLess : body.arrived.length < size :=
          Nat.lt_of_not_le hLong
        refine Or.inl
          ⟨some first, source, rfl, ?_, hLess, hShort hLess⟩
        rw [Option.getD_some, ← Bytes.ofList_toList first, hBytes,
          List.take_of_length_le (Nat.le_of_lt hLess)]
  | ended hNone hUnbroken =>
      rw [rest_ofBody] at hNone
      refine Or.inl ⟨none, source, rfl, ?_, ?_, hUnbroken⟩
      · rw [hNone]
        rfl
      · rw [hNone]
        exact hSize
  | failed hShort hFailure =>
      exact Or.inr (Or.inr ⟨_, source, rfl, hShort, hFailure⟩)

end StorageRouting

------------------------------------------------------------
-- A Service That Keeps Parts
------------------------------------------------------------

namespace StorageRouting

namespace S3Connection

/-
  The answers of a service that opens every upload under one
  number and stores every part under one tag.  It completes
  uploads if it is willing to.
-/
def partAnswer
    (willing : Bool)
    (r : Request) : Response :=
  match r.method with
  | .put => ⟨200, [("ETag", "t1")], Bytes.empty⟩
  | .post =>
      if r.query = [⟨"uploads", none⟩] then
        ⟨200, [],
          Bytes.ofString
            ("<InitiateMultipartUploadResult><UploadId>u1</UploadId>" ++
              "</InitiateMultipartUploadResult>")⟩
      else if willing then
        ⟨200, [], Bytes.ofString "<CompleteMultipartUploadResult/>"⟩
      else ⟨503, [], Bytes.empty⟩
  | _ => ⟨204, [], Bytes.empty⟩

/- A connection to such a service. -/
def partService (willing : Bool) : S3Connection Bool where
  config := BackendConfig.new "files" "http://localhost:9000" "a" "s"
  accessKey := "a"
  secretKey := "s"
  closed := { get := id, set := fun b _ => b }
  wire := fun request s => (some (partAnswer willing request), s)
  now := fun _ => ⟨0⟩

/- A body of nine mebibytes in one chunk. -/
def longBody : Body :=
  [.ok (Bytes.ofList (List.replicate (9 * 1024 * 1024) 0))]

theorem length_longBody :
    longBody.arrived.length = 9 * 1024 * 1024 := by
  rw [longBody, Body.arrived, Body.arrived, List.append_nil,
    Bytes.ofList, List.toList_toArray, List.length_replicate]

variable {willing : Bool} {subject : Subject} {body : Body}
variable {contentType : Option String} {id : String}
variable {config : BackendConfig} {x : Exchange}

theorem reaches_partService :
    (partService willing).Reaches ⟨"docs", some "a.bin"⟩
      (some "text/plain") where
  named := by decide +kernel
  addressed := by
    change (partService true).config.serviceAddress?.isSome = true
    decide +kernel
  plain := by decide +kernel
  typed := by
    intro t ht
    cases ht
    decide +kernel

theorem response_of_answered
    {s t : Bool}
    {xs : List Exchange}
    (h : (partService willing).Answered s xs t) :
    ∀ x ∈ xs, x.response = some (partAnswer willing x.request) := by
  induction h with
  | nil =>
      intro x hx
      cases hx
  | cons hAnswer _ ih =>
      intro x hx
      rcases List.mem_cons.mp hx with rfl | hRest
      · exact (congrArg Prod.fst hAnswer).symm
      · exact ih x hRest

/- Every upload is opened under the number "u1". -/
theorem uploadId?_partAnswer
    (hResponse : x.response = some (partAnswer willing x.request))
    (h : x.request.OpensUpload config subject contentType) :
    x.uploadId? = some "u1" := by
  have hMethod : x.request.method = .post := h.method
  have hQuery : x.request.query = [⟨"uploads", none⟩] := h.query
  simp only [Exchange.uploadId?, Exchange.granted?, hResponse,
    partAnswer, hMethod, if_pos hQuery]
  decide +kernel

/- Every part is stored under the tag "t1". -/
theorem storedPart?_partAnswer
    {number : Nat}
    {part : Bytes}
    (hResponse : x.response = some (partAnswer willing x.request))
    (h : x.request.StoresPart config subject id number part) :
    x.storedPart? number = some ⟨number, some "t1"⟩ := by
  have hMethod : x.request.method = .put := h.method
  have hTag :
      x.granted?.map (·.header? "etag") = some (some "t1") := by
    simp only [Exchange.granted?, hResponse, partAnswer, hMethod]
    decide +kernel
  rcases Option.map_eq_some_iff.mp hTag with ⟨r, hGranted, hHeader⟩
  rw [Exchange.storedPart?, hGranted, Option.map_some, hHeader]

/- An upload is completed if the service is willing to. -/
theorem completes_partAnswer
    {parts : List StoredPart}
    (hResponse : x.response = some (partAnswer willing x.request))
    (h : x.request.CompletesUpload config subject id parts) :
    x.completes = willing := by
  rcases h with ⟨document, -, hCarries⟩
  have hMethod : x.request.method = .post := hCarries.method
  have hQuery : x.request.query ≠ [⟨"uploads", none⟩] := by
    rw [hCarries.query]
    simp
  simp only [Exchange.completes, Exchange.granted?, hResponse,
    partAnswer, hMethod, if_neg hQuery]
  cases willing <;> decide +kernel

/- A body of more than one part, and of no more than two. -/
theorem Covers.length_eq_two
    {σ : Type}
    {c : S3Connection σ}
    {size : Nat}
    {xs : List Exchange}
    {parts : List StoredPart}
    (h : c.Covers subject size body id xs parts)
    (hLong : size < body.arrived.length)
    (hShort : body.arrived.length ≤ 2 * size) :
    xs.length = 2 := by
  have hMany := h.covered
  rcases Nat.lt_trichotomy xs.length 2 with hFew | hTwo | hMore
  · have hOne : xs.length * size ≤ 1 * size :=
      Nat.mul_le_mul_right size (by omega)
    omega
  · exact hTwo
  · -- the third part would begin behind the end of the body
    have hThird := (h.uploaded.asked 2 xs[2] (by simp)).some_left
    omega

/- The two requests between opening and completing store parts. -/
theorem Covers.methods_eq
    {σ : Type}
    {c : S3Connection σ}
    {size : Nat}
    {xs : List Exchange}
    {parts : List StoredPart}
    (h : c.Covers subject size body id xs parts)
    (hLong : size < body.arrived.length)
    (hShort : body.arrived.length ≤ 2 * size) :
    xs.map (·.request.method) = [.put, .put] := by
  rcases List.length_eq_two.mp (h.length_eq_two hLong hShort) with
    ⟨x, y, rfl⟩
  have hFirst := (h.uploaded.asked 0 x rfl).asks.method
  have hSecond := (h.uploaded.asked 1 y rfl).asks.method
  rw [List.map_cons, List.map_cons, List.map_nil, hFirst, hSecond]

/- Where all parts are stored, a body that arrives whole is. -/
theorem not_breaks_partService
    {size : Nat}
    {xs : List Exchange}
    (hResponse :
      ∀ x ∈ xs, x.response = some (partAnswer willing x.request))
    (hWhole : body.failure? = none) :
    ¬ (partService willing).Breaks subject size body id xs := by
  intro hBreaks
  cases hBreaks with
  | refused _ hAsked hRefusal =>
      have hStored :=
        storedPart?_partAnswer (hResponse _ (by simp)) hAsked.asks
      rw [hStored] at hRefusal
      cases hRefusal
  | broken _ hFailure _ =>
      rw [hWhole] at hFailure
      cases hFailure

/-
  A body of two parts that arrives whole is stored, and the upload
  is completed or given up as the service wills.
-/
theorem Deposits.in_two_parts
    {s t : Bool}
    {xs : List Exchange}
    {answer : Except Error (Option Int)}
    (h :
      (partService willing).Deposits subject partSize body none
        contentType xs answer)
    (hAnswered : (partService willing).Answered s xs t)
    (hReach : (partService willing).Reaches subject contentType)
    (hLong : partSize < body.arrived.length)
    (hShort : body.arrived.length ≤ 2 * partSize)
    (hWhole : body.failure? = none) :
    (willing = true ∧
      xs.map (·.request.method) = [.post, .put, .put, .post] ∧
      answer = .ok (some body.arrived.length)) ∨
    (willing = false ∧
      xs.map (·.request.method) =
        [.post, .put, .put, .post, .delete] ∧
      ∃ e, answer = .error e) := by
  have hResponse := response_of_answered hAnswered
  cases h with
  | unreached hNot => exact absurd hReach hNot
  | broken hLess => omega
  | mismeasured hLess => omega
  | whole hLess => omega
  | refused hLess => omega
  | unopened _ hOpens hUnnamed =>
      have hNumber :=
        uploadId?_partAnswer (hResponse _ (by simp)) hOpens
      exact absurd (hUnnamed "u1" hNumber) (by decide)
  | completed _ hOpens _ _ hCovers _ hCompletes hComplete =>
      have hWilling :=
        completes_partAnswer (hResponse _ (by simp)) hCompletes
      have hParts := hCovers.methods_eq hLong hShort
      rcases hCompletes with ⟨document, -, hCarries⟩
      refine Or.inl ⟨hWilling.symm.trans hComplete, ?_, rfl⟩
      simp [hParts, hOpens.method, hCarries.method]
  | abandoned _ hOpens _ _ hAbandons hAborts =>
      cases hAbandons with
      | breaks hBreaks =>
          refine absurd hBreaks (not_breaks_partService ?_ hWhole)
          intro x hx
          exact hResponse x (by simp [hx])
      | mismeasured _ hWrong =>
          rcases hWrong with ⟨n, hn, -⟩
          cases hn
      | refused hCovers _ hCompletes hRefusal =>
          have hWilling :=
            completes_partAnswer (hResponse _ (by simp)) hCompletes
          have hParts := hCovers.methods_eq hLong hShort
          rcases hCompletes with ⟨document, -, hCarries⟩
          refine Or.inr
            ⟨hWilling.symm.trans hRefusal, ?_, _, rfl⟩
          simp [hParts, hOpens.method, hCarries.method, hAborts.method]

end S3Connection

end StorageRouting

------------------------------------------------------------
-- The Whole Operation
------------------------------------------------------------

namespace StorageRouting

namespace S3Connection

variable {σ : Type} {c : S3Connection σ}
variable {subject : Subject} {contentType : Option String}
variable {size : Nat}

/- Where requests cannot be made, storing sends none and fails. -/
theorem putSized_of_not_reaches
    (hReach : ¬ c.Reaches subject contentType)
    (hSize : 0 < size)
    (body : Body)
    (expected : Option Nat) :
    ∃ e,
      ∀ (τ : Type) (d : S3Connection τ),
        d.config = c.config →
        ∀ v,
          d.putSized size subject body expected contentType v =
            (.error e, v) := by
  rcases PartSource.first_cases hSize body with
    ⟨first?, source, hNext, hFirst, hShort, _⟩ |
      ⟨first, source, hNext, hFirst, hLong, _, _⟩ |
        ⟨e, source, hNext, _, _⟩
  · have hLess : (Bytes.ofList body.arrived).size < size := by
      rwa [Bytes.size_ofList]
    rcases Subject.checkLength_cases subject expected
        (Bytes.ofList body.arrived).size with
      ⟨hChecked, _⟩ | ⟨e, hChecked, _⟩
    · rcases send_of_not_reaches hReach
          (isWritable_wholeSending_iff
            (Bytes.ofList body.arrived)).mp .putObject with
        ⟨f, hSent⟩
      refine ⟨putError subject f, ?_⟩
      intro τ d hConfig v
      simp only [putSized, hNext, hFirst, if_pos hLess, hChecked,
        putWhole, hSent τ d hConfig]
    · refine ⟨e, ?_⟩
      intro τ d _ v
      simp only [putSized, hNext, hFirst, if_pos hLess, hChecked]
  · have hWhole : ¬ first.size < size := by
      rw [hFirst, size_slice]
      omega
    rcases send_of_not_reaches hReach isWritable_openSending_iff.mp
        .createUpload with
      ⟨f, hSent⟩
    refine ⟨putError subject f, ?_⟩
    intro τ d hConfig v
    simp only [putSized, hNext, Option.getD_some, if_neg hWhole,
      putInParts, openUpload, call, hSent τ d hConfig]
  · refine ⟨e, ?_⟩
    intro τ d _ v
    simp only [putSized, hNext]

/- An object is stored as the protocol has it. -/
theorem putSized_comes
    (hSize : 0 < size)
    (body : Body)
    (expected : Option Nat)
    (s : σ) :
    ∃ answer t xs,
      c.Comes
        (fun _ c => c.putSized size subject body expected contentType)
        s xs answer t ∧
      c.Deposits subject size body expected contentType xs
        (answer.map (fun r => some (r.1 : Int))) := by
  by_cases hReach : c.Reaches subject contentType
  case neg =>
    rcases putSized_of_not_reaches hReach hSize body expected with
      ⟨e, hPut⟩
    exact ⟨.error e, s, [], .alone hPut s, .unreached hReach⟩
  case pos =>
    rcases PartSource.first_cases hSize body with
      ⟨first?, source, hNext, hFirst, hShort, hUnbroken⟩ |
        ⟨first, source, hNext, hFirst, hLong, hRest, hFailure⟩ |
          ⟨e, source, hNext, hShort, hFailure⟩
    · have hLength := Bytes.size_ofList body.arrived
      rcases Subject.checkLength_cases subject expected
          body.arrived.length with
        ⟨hChecked, hRight⟩ | ⟨e, hChecked, hWrong⟩
      · rcases putWhole_comes hReach (Bytes.ofList body.arrived) s with
          ⟨x, t, answer, hPut, hAsks, hStores⟩
        cases answer with
        | ok tag =>
            refine ⟨.ok (body.arrived.length, tag), t, [x],
              hPut.run ?_,
              .whole hShort hUnbroken hRight hAsks hStores.symm⟩
            intro τ d u v hWhole
            simp only [putSized, hNext, hFirst, hLength, if_pos hShort,
              hChecked, hWhole]
        | error e =>
            refine ⟨.error e, t, [x], hPut.run ?_,
              .refused hShort hUnbroken hRight hAsks hStores.symm⟩
            intro τ d u v hWhole
            simp only [putSized, hNext, hFirst, hLength, if_pos hShort,
              hChecked, hWhole]
      · refine ⟨.error e, s, [], .alone ?_ s,
          .mismeasured hShort hUnbroken hWrong⟩
        intro τ d _ v
        simp only [putSized, hNext, hFirst, hLength, if_pos hShort,
          hChecked]
    · have hWhole : ¬ first.size < size := by
        rw [hFirst, size_slice]
        omega
      rcases putInParts_comes hReach hSize hLong hFirst hRest hFailure
          s with
        ⟨answer, t, xs, hPut, hDeposits⟩
      refine ⟨answer, t, xs, hPut.run ?_, hDeposits⟩
      intro τ d u v hParts
      simp only [putSized, hNext, Option.getD_some, if_neg hWhole,
        hParts]
    · refine ⟨.error e, s, [], .alone ?_ s, .broken hShort hFailure⟩
      intro τ d _ v
      simp only [putSized, hNext]

end S3Connection

end StorageRouting
