import StorageRouting.Proofs.S3.Exchange
import StorageRouting.Proofs.S3.Parts
import StorageRouting.S3.Adapter

/-
  The protocol of storing an object: which requests are sent, in
  which order, and what the answer is.

  Key definitions include:
    * `S3Connection.AsksPart`
    * `S3Connection.Uploaded`
    * `S3Connection.Breaks`
    * `S3Connection.Covers`
    * `S3Connection.Abandons`
    * `S3Connection.Deposits`
    * `S3Connection.Uploading`

  Main statements:
    * `S3Connection.Uploaded.concat`
    * `S3Connection.Uploading.next`
-/

------------------------------------------------------------
-- Answers
------------------------------------------------------------

namespace StorageRouting

namespace Exchange

/- The number of the upload that an exchange opens. -/
def uploadId? (x : Exchange) : Option String :=
  x.granted?.bind
    (fun r => (UploadNote.opened? r.body).bind (·.id))

/- The part that an exchange stores, with the tag it is given. -/
def storedPart?
    (number : Nat)
    (x : Exchange) : Option StoredPart :=
  x.granted?.map (fun r => ⟨number, r.header? "etag"⟩)

/- Whether an exchange completes an upload. -/
def completes (x : Exchange) : Bool :=
  x.granted?.any (fun r => (UploadNote.completed? r.body).isSome)

/- Whether an exchange stores a whole object. -/
def stores (x : Exchange) : Bool :=
  x.granted?.isSome

end Exchange

end StorageRouting

------------------------------------------------------------
-- The Protocol
------------------------------------------------------------

namespace StorageRouting

namespace S3Connection

variable {σ : Type}

/- The slice of a body that is the part at a place. -/
def slice
    (size : Nat)
    (body : Body)
    (i : Nat) : Bytes :=
  Bytes.ofList ((body.arrived.drop (i * size)).take size)

/-
  An exchange asks to store the part at a place.  The part is not
  empty, and it is short only at the end of a body that arrives
  whole.
-/
structure AsksPart
    (c : S3Connection σ)
    (subject : Subject)
    (size : Nat)
    (body : Body)
    (id : String)
    (i : Nat)
    (x : Exchange) : Prop where
  some_left : i * size < body.arrived.length
  full :
    body.arrived.length < (i + 1) * size → body.failure? = none
  asks :
    x.request.StoresPart c.config subject id (i + 1)
      (slice size body i)

/-
  Exchanges that store the first parts of a body, each under the
  next number, and what was stored.
-/
structure Uploaded
    (c : S3Connection σ)
    (subject : Subject)
    (size : Nat)
    (body : Body)
    (id : String)
    (xs : List Exchange)
    (parts : List StoredPart) : Prop where
  asked :
    ∀ i x, xs[i]? = some x → c.AsksPart subject size body id i x
  stored :
    xs.mapIdx (fun i x => x.storedPart? (i + 1)) = parts.map some

/-
  Exchanges about parts after which an upload cannot be
  completed: a part was refused, or the body failed.
-/
inductive Breaks
    (c : S3Connection σ)
    (subject : Subject)
    (size : Nat)
    (body : Body)
    (id : String) : List Exchange → Prop
| refused
    {xs : List Exchange}
    {parts : List StoredPart}
    {x : Exchange}
    (uploaded : c.Uploaded subject size body id xs parts)
    (asked : c.AsksPart subject size body id xs.length x)
    (refusal : x.storedPart? (xs.length + 1) = none) :
    Breaks c subject size body id (xs ++ [x])
| broken
    {xs : List Exchange}
    {parts : List StoredPart}
    (uploaded : c.Uploaded subject size body id xs parts)
    (failure : body.failure?.isSome = true)
    (stuck : body.arrived.length < (xs.length + 1) * size) :
    Breaks c subject size body id xs

/- Exchanges that store all parts of a body that arrives whole. -/
structure Covers
    (c : S3Connection σ)
    (subject : Subject)
    (size : Nat)
    (body : Body)
    (id : String)
    (xs : List Exchange)
    (parts : List StoredPart) : Prop where
  uploaded : c.Uploaded subject size body id xs parts
  unbroken : body.failure? = none
  covered : body.arrived.length ≤ xs.length * size

/-
  Exchanges after which an upload is given up: its parts could
  not all be stored, the body had not the announced length, or
  the completion was refused.
-/
inductive Abandons
    (c : S3Connection σ)
    (subject : Subject)
    (size : Nat)
    (body : Body)
    (expected : Option Nat)
    (id : String) : List Exchange → Prop
| breaks
    {xs : List Exchange}
    (broken : c.Breaks subject size body id xs) :
    Abandons c subject size body expected id xs
| mismeasured
    {xs : List Exchange}
    {parts : List StoredPart}
    (covers : c.Covers subject size body id xs parts)
    (wrong : ∃ n ∈ expected, n ≠ body.arrived.length) :
    Abandons c subject size body expected id xs
| refused
    {xs : List Exchange}
    {parts : List StoredPart}
    {x : Exchange}
    (covers : c.Covers subject size body id xs parts)
    (measured : ∀ n ∈ expected, n = body.arrived.length)
    (asked : x.request.CompletesUpload c.config subject id parts)
    (refusal : x.completes = false) :
    Abandons c subject size body expected id (xs ++ [x])

/-
  All exchanges by which an object is stored, or is not, and the
  size in the answer.  An upload that was opened under a number
  ends with its completion or with the request to give it up.
  Where no request about the subject can be made there are none.
-/
inductive Deposits
    (c : S3Connection σ)
    (subject : Subject)
    (size : Nat)
    (body : Body)
    (expected : Option Nat)
    (contentType : Option String) :
    List Exchange → Except Error (Option Int) → Prop
| unreached
    {e : Error}
    (unreached : ¬ c.Reaches subject contentType) :
    Deposits c subject size body expected contentType [] (.error e)
| broken
    {e : Error}
    (short : body.arrived.length < size)
    (failure : body.failure? = some e) :
    Deposits c subject size body expected contentType [] (.error e)
| mismeasured
    {e : Error}
    (short : body.arrived.length < size)
    (unbroken : body.failure? = none)
    (wrong : ∃ n ∈ expected, n ≠ body.arrived.length) :
    Deposits c subject size body expected contentType [] (.error e)
| whole
    {x : Exchange}
    (short : body.arrived.length < size)
    (unbroken : body.failure? = none)
    (measured : ∀ n ∈ expected, n = body.arrived.length)
    (asked :
      x.request.StoresWhole c.config subject
        (Bytes.ofList body.arrived) contentType)
    (stored : x.stores = true) :
    Deposits c subject size body expected contentType [x]
      (.ok (some body.arrived.length))
| refused
    {x : Exchange}
    {e : Error}
    (short : body.arrived.length < size)
    (unbroken : body.failure? = none)
    (measured : ∀ n ∈ expected, n = body.arrived.length)
    (asked :
      x.request.StoresWhole c.config subject
        (Bytes.ofList body.arrived) contentType)
    (refusal : x.stores = false) :
    Deposits c subject size body expected contentType [x] (.error e)
| unopened
    {x : Exchange}
    {e : Error}
    (long : size ≤ body.arrived.length)
    (asked : x.request.OpensUpload c.config subject contentType)
    (unnamed : ∀ id ∈ x.uploadId?, id = "") :
    Deposits c subject size body expected contentType [x] (.error e)
| completed
    {opening completion : Exchange}
    {id : String}
    {xs : List Exchange}
    {parts : List StoredPart}
    (long : size ≤ body.arrived.length)
    (asked :
      opening.request.OpensUpload c.config subject contentType)
    (opened : opening.uploadId? = some id)
    (named : id ≠ "")
    (covers : c.Covers subject size body id xs parts)
    (measured : ∀ n ∈ expected, n = body.arrived.length)
    (completes :
      completion.request.CompletesUpload c.config subject id parts)
    (complete : completion.completes = true) :
    Deposits c subject size body expected contentType
      (opening :: xs ++ [completion])
      (.ok (some body.arrived.length))
| abandoned
    {opening abort : Exchange}
    {id : String}
    {xs : List Exchange}
    {e : Error}
    (long : size ≤ body.arrived.length)
    (asked :
      opening.request.OpensUpload c.config subject contentType)
    (opened : opening.uploadId? = some id)
    (named : id ≠ "")
    (abandons : c.Abandons subject size body expected id xs)
    (aborts : abort.request.AbortsUpload c.config subject id) :
    Deposits c subject size body expected contentType
      (opening :: xs ++ [abort]) (.error e)

end S3Connection

end StorageRouting

------------------------------------------------------------
-- Stored Parts
------------------------------------------------------------

namespace StorageRouting

namespace S3Connection

variable {σ : Type} {c : S3Connection σ}
variable {subject : Subject} {contentType : Option String}
variable {size : Nat} {body : Body} {id : String}
variable {xs : List Exchange} {parts : List StoredPart}

theorem Uploaded.nil : c.Uploaded subject size body id [] [] where
  asked := by
    intro i x h
    cases h
  stored := rfl

theorem Uploaded.length_eq
    (h : c.Uploaded subject size body id xs parts) :
    parts.length = xs.length := by
  simpa using (congrArg List.length h.stored).symm

/- One more part is stored. -/
theorem Uploaded.concat
    (h : c.Uploaded subject size body id xs parts)
    {x : Exchange}
    {p : StoredPart}
    (hAsked : c.AsksPart subject size body id xs.length x)
    (hStored : x.storedPart? (xs.length + 1) = some p) :
    c.Uploaded subject size body id (xs ++ [x]) (parts ++ [p]) where
  asked := by
    intro i y hAt
    rw [List.getElem?_append] at hAt
    split at hAt
    case isTrue => exact h.asked i y hAt
    case isFalse hLong =>
      rw [List.getElem?_singleton] at hAt
      split at hAt
      case isFalse => cases hAt
      case isTrue hLast =>
        cases hAt
        have hPlace : i = xs.length := by omega
        rw [hPlace]
        exact hAsked
  stored := by
    rw [List.mapIdx_concat, h.stored, hStored, List.map_append,
      List.map_singleton]

end S3Connection

end StorageRouting

------------------------------------------------------------
-- Parts to Be Stored
------------------------------------------------------------

namespace StorageRouting

namespace S3Connection

/-
  The state of an upload before a part is stored: what was stored
  of the body, the part, and the source of all that follows.
-/
structure Uploading
    {σ : Type}
    (c : S3Connection σ)
    (subject : Subject)
    (size : Nat)
    (body : Body)
    (id : String)
    (xs : List Exchange)
    (parts : List StoredPart)
    (part : Bytes)
    (source : PartSource) : Prop where
  uploaded : c.Uploaded subject size body id xs parts
  some_left : xs.length * size < body.arrived.length
  full :
    body.arrived.length < (xs.length + 1) * size →
      body.failure? = none
  bytes : part = slice size body xs.length
  rest : source.rest = body.arrived.drop ((xs.length + 1) * size)
  failure : source.failure? = body.failure?

/- How storing the parts of a body ends. -/
inductive UploadEnds
    {σ : Type}
    (c : S3Connection σ)
    (subject : Subject)
    (size : Nat)
    (body : Body)
    (id : String)
    (xs : List Exchange) :
    Except Error (List StoredPart × Nat) → Prop
| covers
    {parts : List StoredPart}
    (covers : c.Covers subject size body id xs parts) :
    UploadEnds c subject size body id xs
      (.ok (parts, body.arrived.length))
| breaks
    {e : Error}
    (breaks : c.Breaks subject size body id xs) :
    UploadEnds c subject size body id xs (.error e)

variable {σ : Type} {c : S3Connection σ}
variable {subject : Subject} {size : Nat} {body : Body} {id : String}
variable {xs : List Exchange} {parts : List StoredPart}
variable {part : Bytes} {source : PartSource}

theorem size_slice
    (size : Nat)
    (body : Body)
    (i : Nat) :
    (slice size body i).size =
      min size (body.arrived.length - i * size) := by
  rw [slice, Bytes.size_ofList, List.length_take, List.length_drop]

/- The first part of a long body, before anything is stored. -/
theorem Uploading.start
    (hLong : size ≤ body.arrived.length)
    (hSize : 0 < size)
    (hFirst : part = slice size body 0)
    (hRest : source.rest = body.arrived.drop size)
    (hFailure : source.failure? = body.failure?) :
    c.Uploading subject size body id [] [] part source where
  uploaded := Uploaded.nil
  some_left := by
    rw [List.length_nil, Nat.zero_mul]
    omega
  full := by
    rw [List.length_nil, Nat.zero_add, Nat.one_mul]
    intro hShort
    exact absurd hLong (Nat.not_le_of_lt hShort)
  bytes := hFirst
  rest := by
    rw [List.length_nil, Nat.zero_add, Nat.one_mul]
    exact hRest
  failure := hFailure

/- The part and its number are what the protocol asks for. -/
theorem Uploading.asksPart
    (h : c.Uploading subject size body id xs parts part source)
    {x : Exchange}
    (hAsks :
      x.request.StoresPart c.config subject id (xs.length + 1)
        part) :
    c.AsksPart subject size body id xs.length x where
  some_left := h.some_left
  full := h.full
  asks := h.bytes ▸ hAsks

/-
  When a part is stored, the next one is the next slice, or the
  body is covered, or it failed.
-/
theorem Uploading.next
    (h : c.Uploading subject size body id xs parts part source)
    (hSize : 0 < size)
    {x : Exchange}
    {p : StoredPart}
    (hUploaded :
      c.Uploaded subject size body id (xs ++ [x]) (parts ++ [p]))
    {answer : Except Error (Option Bytes)}
    {source' : PartSource}
    (hNext : source.next size = (answer, source')) :
    (∃ part',
      answer = .ok (some part') ∧
      c.Uploading subject size body id (xs ++ [x]) (parts ++ [p])
        part' source' ∧
      part.size = size ∧
      source'.rest.length < source.rest.length) ∨
    (answer = .ok none ∧
      c.Covers subject size body id (xs ++ [x]) (parts ++ [p]) ∧
      xs.length * size + part.size = body.arrived.length) ∨
    (∃ e,
      answer = .error e ∧
      c.Breaks subject size body id (xs ++ [x])) := by
  have hYields := source.next_yields hSize
  rw [hNext] at hYields
  have hCount : (xs ++ [x]).length = xs.length + 1 := by simp
  have hRest :
      source.rest.length =
        body.arrived.length - (xs.length + 1) * size := by
    rw [h.rest, List.length_drop]
  have hPart := size_slice size body xs.length
  rw [← h.bytes] at hPart
  have hLeft := h.some_left
  have hStep : (xs.length + 1) * size = xs.length * size + size :=
    Nat.succ_mul _ _
  have hStep' :
      (xs.length + 1 + 1) * size = (xs.length + 1) * size + size :=
    Nat.succ_mul _ _
  cases hYields with
  | part hBytes hSome hShort hRest' hFailure =>
      rename_i part'
      have hLong : 0 < source.rest.length :=
        List.length_pos_iff.mpr hSome
      refine Or.inl ⟨part', rfl, ⟨hUploaded, ?_, ?_, ?_, ?_, ?_⟩,
        ?_, ?_⟩
      · rw [hCount]
        omega
      · rw [hCount, ← h.failure]
        intro hEnd
        exact hShort (by omega)
      · rw [slice, hCount, ← h.rest, ← hBytes, Bytes.ofList_toList]
      · rw [hRest', h.rest, List.drop_drop, hCount, hStep']
      · exact hFailure.trans h.failure
      · omega
      · rw [hRest', List.length_drop]
        omega
  | ended hNone hUnbroken =>
      rw [hNone, List.length_nil] at hRest
      refine Or.inr (Or.inl ⟨rfl, ⟨hUploaded, ?_, ?_⟩, ?_⟩)
      · exact h.failure ▸ hUnbroken
      · rw [hCount]
        omega
      · omega
  | failed hShort hFailure =>
      refine Or.inr (Or.inr ⟨_, rfl, Breaks.broken hUploaded ?_ ?_⟩)
      · rw [← h.failure, hFailure]
        rfl
      · rw [hCount]
        omega

end S3Connection

end StorageRouting
