import StorageRouting.Proofs.S3.Requests

/-
  What a connection says to its service: the requests in order,
  each with the response to it.

  Key definitions include:
    * `Exchange`
    * `Exchange.granted?`
    * `S3Connection.noting`
    * `S3Connection.Answered`
    * `S3Connection.Comes`
    * `S3Connection.Reaches`

  Main statements:
    * `Exchange.granted?_eq`
    * `S3Connection.Comes.run`
    * `S3Connection.Comes.seq`
    * `S3Connection.exists_exchange`
    * `S3Connection.exists_uploadExchange`
-/

------------------------------------------------------------
-- Exchanges
------------------------------------------------------------

namespace StorageRouting

/- A request as it was sent, and its response, if one came. -/
structure Exchange where
  request : Request
  response : Option Response

namespace Exchange

/-
  The response that grants a request: it came whole, its status
  is one of success, and its document is not that of a refusal.
-/
def granted? (x : Exchange) : Option Response :=
  x.response.bind (fun r =>
    let r := r.arriving x.request.method
    if 200 ≤ r.status ∧ r.status < 300 ∧ r.isBroken = false ∧
        RefusalNote.isRefusal r.body = false then
      some r
    else none)

/- What a call comes to by an exchange. -/
def outcome
    (call : ServiceCall)
    (x : Exchange) : Except CallFailure Response :=
  match x.response with
  | none => .error .unreached
  | some r => call.judge (r.arriving x.request.method)

/- A call succeeds with the response that grants its request. -/
theorem granted?_eq
    (call : ServiceCall)
    (h : call.isStream = false)
    (x : Exchange) :
    x.granted? = (x.outcome call).toOption := by
  rw [granted?, outcome]
  cases x.response with
  | none => rfl
  | some r =>
      dsimp only [Option.bind_some]
      generalize r.arriving x.request.method = r
      unfold ServiceCall.judge Response.isSuccess
      rw [h, Bool.false_and, if_neg Bool.false_ne_true]
      cases r.isBroken with
      | true => simp [Except.toOption]
      | false =>
          cases RefusalNote.isRefusal r.body with
          | true => simp [Except.toOption]
          | false =>
              by_cases hLow : 200 ≤ r.status <;>
                by_cases hHigh : r.status < 300 <;>
                  simp [hLow, hHigh, Except.toOption]

end Exchange

namespace S3Connection

variable {σ : Type}

/- The same connection, with a note taken of every exchange. -/
def noting
    (c : S3Connection σ) : S3Connection (σ × List Exchange) where
  config := c.config
  accessKey := c.accessKey
  secretKey := c.secretKey
  closed :=
    { get := fun s => c.closed.get s.1
      set := fun b s => (c.closed.set b s.1, s.2) }
  wire := fun request s =>
    let (response, t) := c.wire request s.1
    (response, (t, s.2 ++ [⟨request, response⟩]))
  now := fun s => c.now s.1

/-
  Requests about a subject can be made: its names are there, the
  endpoint has an address, the bucket is no resource with one of
  its own, and the content type can stand in a header.
-/
structure Reaches
    (c : S3Connection σ)
    (subject : Subject)
    (contentType : Option String) : Prop where
  named : subject.isBlank = false
  addressed : c.config.serviceAddress?.isSome = true
  plain :
    Text.dropStart? ServiceAddress.resourceMark
      subject.bucket.toList = none
  typed : ∀ t ∈ contentType, Header.isValue t = true

/-
  The service answers the requests of exchanges, one after the
  other, on the way from one state to another.
-/
inductive Answered
    (c : S3Connection σ) : σ → List Exchange → σ → Prop
| nil
    {s : σ} :
    Answered c s [] s
| cons
    {s t u : σ}
    {x : Exchange}
    {xs : List Exchange}
    (answer : c.wire x.request s = (x.response, t))
    (rest : Answered c t xs u) :
    Answered c s (x :: xs) u

/-
  An action over a connection comes to an answer by exchanges
  with the service.  There are no others, since the connection
  that takes notes has noted just these.
-/
structure Comes
    {α : Type}
    (c : S3Connection σ)
    (action : ∀ τ : Type, S3Connection τ → τ → α × τ)
    (s : σ)
    (xs : List Exchange)
    (answer : α)
    (t : σ) : Prop where
  own : action σ c s = (answer, t)
  noted :
    ∀ log : List Exchange,
      action (σ × List Exchange) c.noting (s, log) =
        (answer, (t, log ++ xs))
  answered : c.Answered s xs t

end S3Connection

end StorageRouting

------------------------------------------------------------
-- Sending
------------------------------------------------------------

namespace StorageRouting

namespace S3Connection

variable {σ : Type} {c : S3Connection σ}
variable {subject : Subject} {contentType : Option String}
variable {m : Sending} {call : ServiceCall}

/- A request that can be made is made. -/
theorem Reaches.exists_request
    (hReach : c.Reaches subject contentType)
    (m : Sending) :
    ∃ request,
      subject.request c.config m.method m.query m.headers m.body =
        .ok request := by
  rcases Option.isSome_iff_exists.mp hReach.addressed with
    ⟨address, hAddress⟩
  unfold Subject.request
  simp [hReach.named, hAddress, hReach.plain]

/- Answers of further exchanges follow. -/
theorem Answered.append
    {s t u : σ}
    {xs ys : List Exchange}
    (h : c.Answered s xs t)
    (hMore : c.Answered t ys u) :
    c.Answered s (xs ++ ys) u := by
  induction h with
  | nil => exact hMore
  | cons hAnswer _ ih => exact .cons hAnswer (ih hMore)

/-
  What does no more than an action over any connection comes to
  an answer by the same exchanges.
-/
theorem Comes.run
    {α β : Type}
    {action : ∀ τ : Type, S3Connection τ → τ → α × τ}
    {more : ∀ τ : Type, S3Connection τ → τ → β × τ}
    {s t : σ}
    {xs : List Exchange}
    {a : α}
    {b : β}
    (h : c.Comes action s xs a t)
    (hRun :
      ∀ (τ : Type) (d : S3Connection τ) (u v : τ),
        action τ d u = (a, v) → more τ d u = (b, v)) :
    c.Comes more s xs b t where
  own := hRun _ _ _ _ h.own
  noted := fun log => hRun _ _ _ _ (h.noted log)
  answered := h.answered

/- What carries out two actions comes to both their exchanges. -/
theorem Comes.seq
    {α β γ : Type}
    {first : ∀ τ : Type, S3Connection τ → τ → α × τ}
    {next : ∀ τ : Type, S3Connection τ → τ → β × τ}
    {both : ∀ τ : Type, S3Connection τ → τ → γ × τ}
    {s t u : σ}
    {xs ys : List Exchange}
    {a : α}
    {b : β}
    {answer : γ}
    (h : c.Comes first s xs a t)
    (hNext : c.Comes next t ys b u)
    (hRun :
      ∀ (τ : Type) (d : S3Connection τ) (v w z : τ),
        first τ d v = (a, w) →
        next τ d w = (b, z) →
        both τ d v = (answer, z)) :
    c.Comes both s (xs ++ ys) answer u where
  own := hRun _ _ _ _ _ h.own hNext.own
  noted := by
    intro log
    have hLater := hNext.noted (log ++ xs)
    rw [List.append_assoc] at hLater
    exact hRun _ _ _ _ _ (h.noted log) hLater
  answered := h.answered.append hNext.answered

/- What leaves the state alone comes to an answer by itself. -/
theorem Comes.alone
    {α : Type}
    {action : ∀ τ : Type, S3Connection τ → τ → α × τ}
    {a : α}
    (h :
      ∀ (τ : Type) (d : S3Connection τ),
        d.config = c.config → ∀ v, action τ d v = (a, v))
    (s : σ) :
    c.Comes action s [] a s where
  own := h _ c rfl s
  noted := by
    intro log
    rw [List.append_nil]
    exact h _ c.noting rfl (s, log)
  answered := .nil

/- A call with a request that can be made is one exchange. -/
theorem exists_exchange
    (hReach : c.Reaches subject contentType)
    (hWritable : m.isWritable = true)
    (call : ServiceCall)
    (s : σ) :
    ∃ x t,
      x.request.Carries c.config subject m ∧
      c.Comes (fun _ c => c.send call subject m) s [x]
        (x.outcome call) t := by
  rcases hReach.exists_request m with ⟨request, hRequest⟩
  rcases hAnswer : c.wire request s with ⟨response, t⟩
  refine ⟨⟨request, response⟩, t,
    Subject.carries_of_request hRequest, ?_, ?_, .cons hAnswer .nil⟩
  · rw [send, if_pos hWritable, hRequest, ServiceCall.send]
    simp only [hAnswer]
    cases response <;> rfl
  · intro log
    have hNoted :
        c.noting.wire request (s, log) =
          (response, (t, log ++ [⟨request, response⟩])) := by
      simp only [noting, hAnswer]
    have hSame :
        subject.request c.noting.config m.method m.query m.headers
            m.body =
          .ok request :=
      hRequest
    rw [send, if_pos hWritable, hSame, ServiceCall.send]
    simp only [hNoted]
    cases response <;> rfl

/- So is a call about an upload that has a number. -/
theorem exists_uploadExchange
    (hReach : c.Reaches subject contentType)
    (hWritable : m.isWritable = true)
    {id : String}
    (hId : id ≠ "")
    (call : ServiceCall)
    (s : σ) :
    ∃ x t,
      x.request.Carries c.config subject m ∧
      c.Comes (fun _ c => c.sendUpload call subject id m) s [x]
        (x.outcome call) t := by
  have hNumber : id.isEmpty = false := by
    simpa using hId
  have hSend :
      (fun (τ : Type) (c : S3Connection τ) =>
        c.sendUpload call subject id m) =
      (fun _ c => c.send call subject m) := by
    funext τ c s
    rw [sendUpload, hNumber, if_neg Bool.false_ne_true]
  rw [hSend]
  exact exists_exchange hReach hWritable call s

/-
  Where requests cannot be made, none is sent, and the failure
  is the same over all connections of a configuration.
-/
theorem send_of_not_reaches
    (hReach : ¬ c.Reaches subject contentType)
    (hTyped :
      m.isWritable = true →
        ∀ t ∈ contentType, Header.isValue t = true)
    (call : ServiceCall) :
    ∃ f,
      ∀ (τ : Type) (d : S3Connection τ),
        d.config = c.config →
        ∀ v, d.send call subject m v = (.error f, v) := by
  by_cases hWritable : m.isWritable = true
  case neg =>
    refine ⟨.unmade, ?_⟩
    intro τ d _ v
    rw [send, if_neg hWritable]
  case pos =>
    cases hRequest :
        subject.request c.config m.method m.query m.headers m.body with
    | error e =>
        refine ⟨CallFailure.ofUnsendable e, ?_⟩
        intro τ d hConfig v
        rw [send, if_pos hWritable, hConfig, hRequest]
        rfl
    | ok request =>
        -- a request shows that the subject can be reached
        apply absurd _ hReach
        unfold Subject.request at hRequest
        split at hRequest
        case isTrue => cases hRequest
        case isFalse hNamed =>
          split at hRequest
          case h_1 => cases hRequest
          case h_2 hAddress =>
            simp only at hRequest
            split at hRequest
            case isTrue => cases hRequest
            case isFalse hPlain =>
              exact
                { named := Bool.eq_false_iff.mpr hNamed
                  addressed := by rw [hAddress]; rfl
                  plain := by simpa using hPlain
                  typed := hTyped hWritable }

/- Nothing is sent about an upload without a number. -/
theorem sendUpload_of_empty
    (c : S3Connection σ)
    (call : ServiceCall)
    (subject : Subject)
    (m : Sending)
    (s : σ) :
    c.sendUpload call subject "" m s = (.error .unmade, s) :=
  rfl

end S3Connection

/- A number can stand in a header. -/
theorem Header.isValue_toString (n : Nat) :
    Header.isValue (toString n) = true := by
  have hDigits : (toString n).toList = Nat.toDigits 10 n := by
    rw [Nat.toString_eq_repr, Nat.repr, String.toList_ofList]
  unfold Header.isValue
  rw [hDigits, List.all_eq_true]
  intro c hc
  have hDigit : c.isDigit = true :=
    Nat.isDigit_of_mem_toDigits (by decide) (by decide) hc
  rw [Char.isDigit, Bool.and_eq_true, decide_eq_true_eq,
    decide_eq_true_eq] at hDigit
  have hLow : 48 ≤ c.toNat := hDigit.1
  have hHigh : c.toNat ≤ 57 := hDigit.2
  have hPrinted : 32 ≤ c.toNat ∧ c.toNat ≠ 127 := by omega
  simp [hPrinted]

end StorageRouting
