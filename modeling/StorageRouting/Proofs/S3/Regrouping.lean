import StorageRouting.Proofs.S3.Parts

/-
  A body comes out of its source in slices of one size, however
  it was cut into chunks on its way in.

  Key definitions include:
    * `Bytes.Cut`
    * `Bytes.inParts`
    * `PartSource.answers`

  Main statements:
    * `Bytes.Cut.length_inParts`
    * `PartSource.next_of_unbroken`
    * `PartSource.full_run`
    * `PartSource.exists_cut`
    * `PartSource.parts_regroup_body`
-/

------------------------------------------------------------
-- Slices of One Size
------------------------------------------------------------

namespace StorageRouting

namespace Bytes

/-
  Some bytes are cut into consecutive slices of one size, and
  what is left behind them is shorter.
-/
structure Cut
    (size : Nat)
    (bytes : List UInt8)
    (full : List Bytes)
    (left : Bytes) : Prop where
  whole : bytes = full.flatMap (·.data.toList) ++ left.data.toList
  sized : ∀ part ∈ full, part.size = size
  short : left.size < size

/- The slices, and what is left, if there is anything. -/
def inParts
    (full : List Bytes)
    (left : Bytes) : List Bytes :=
  if left.size = 0 then full else full ++ [left]

theorem length_toList (b : Bytes) : b.data.toList.length = b.size :=
  Array.length_toList

/- Bytes of no size are no bytes. -/
theorem toList_eq_nil
    {b : Bytes}
    (h : b.size = 0) : b.data.toList = [] := by
  apply List.eq_nil_of_length_eq_zero
  rw [length_toList, h]

/- Slices of one size are together as long as so many sizes. -/
theorem length_flatMap_of_sized
    {size : Nat}
    {full : List Bytes}
    (h : ∀ part ∈ full, part.size = size) :
    (full.flatMap (·.data.toList)).length = full.length * size := by
  induction full with
  | nil => simp
  | cons part full ih =>
      have hPart := h part List.mem_cons_self
      have hFull :=
        ih (fun p hp => h p (List.mem_cons_of_mem part hp))
      rw [List.flatMap_cons, List.length_append, length_toList,
        hPart, hFull, List.length_cons, Nat.succ_mul, Nat.add_comm]

namespace Cut

variable {size : Nat} {bytes : List UInt8}
variable {full : List Bytes} {left : Bytes}

theorem length_eq
    (h : Cut size bytes full left) :
    bytes.length = full.length * size + left.size := by
  rw [h.whole, List.length_append, length_flatMap_of_sized h.sized,
    length_toList]

/- There are as many slices as the size fits into the length. -/
theorem length_full
    (h : Cut size bytes full left) :
    full.length = bytes.length / size := by
  have hShort := h.short
  rw [h.length_eq, Nat.add_comm, Nat.add_mul_div_right _ _ (by omega),
    Nat.div_eq_of_lt hShort, Nat.zero_add]

/- With what is left, that number is rounded up. -/
theorem length_inParts
    (h : Cut size bytes full left) :
    (inParts full left).length = (bytes.length + size - 1) / size := by
  have hShort := h.short
  have hSize : 0 < size := by omega
  rw [inParts, h.length_eq]
  split
  case isTrue hEmpty =>
    have hSum :
        full.length * size + left.size + size - 1 =
          size - 1 + full.length * size := by
      omega
    rw [hSum, Nat.add_mul_div_right _ _ hSize,
      Nat.div_eq_of_lt (by omega), Nat.zero_add]
  case isFalse hSome =>
    have hSum :
        full.length * size + left.size + size - 1 =
          left.size - 1 + (full.length + 1) * size := by
      rw [Nat.succ_mul]
      omega
    rw [hSum, Nat.add_mul_div_right _ _ hSize,
      Nat.div_eq_of_lt (by omega), Nat.zero_add,
      List.length_append, List.length_singleton]

/- All parts in a row are the bytes again. -/
theorem flatMap_inParts
    (h : Cut size bytes full left) :
    (inParts full left).flatMap (·.data.toList) = bytes := by
  rw [inParts, h.whole]
  split
  case isTrue hEmpty => rw [toList_eq_nil hEmpty, List.append_nil]
  case isFalse hSome =>
    rw [List.flatMap_append, List.flatMap_singleton]

/- No part is empty, and none is longer than the size. -/
theorem size_of_mem_inParts
    (h : Cut size bytes full left)
    {part : Bytes}
    (hPart : part ∈ inParts full left) :
    0 < part.size ∧ part.size ≤ size := by
  have hShort := h.short
  rw [inParts] at hPart
  split at hPart
  case isTrue hEmpty =>
    rw [h.sized part hPart]
    omega
  case isFalse hSome =>
    rcases List.mem_append.mp hPart with hFull | hLeft
    · rw [h.sized part hFull]
      omega
    · rw [List.mem_singleton.mp hLeft]
      omega

/- Only the last part may be shorter than the others. -/
theorem size_of_mem_dropLast
    (h : Cut size bytes full left)
    {part : Bytes}
    (hPart : part ∈ (inParts full left).dropLast) :
    part.size = size := by
  apply h.sized
  rw [inParts] at hPart
  split at hPart
  case isTrue hEmpty => exact List.dropLast_subset full hPart
  case isFalse hSome =>
    rw [List.dropLast_concat] at hPart
    exact hPart

end Cut

end Bytes

end StorageRouting

------------------------------------------------------------
-- Asking for One Part after the Other
------------------------------------------------------------

namespace StorageRouting

namespace PartSource

/- The answers to so many requests for the next part. -/
def answers
    (size : Nat) :
    Nat → PartSource → List (Except Error (Option Bytes))
| 0, _ => []
| count + 1, s =>
    let (answer, s) := next size s
    answer :: answers size count s

/- The answers that give these parts. -/
def given (parts : List Bytes) : List (Except Error (Option Bytes)) :=
  parts.map (fun part => .ok (some part))

variable {size : Nat} {s : PartSource}

theorem answers_succ
    {answer : Except Error (Option Bytes)}
    {s' : PartSource}
    (h : next size s = (answer, s'))
    (count : Nat) :
    answers size (count + 1) s = answer :: answers size count s' := by
  rw [answers, h]

/- What the next part of a source comes to. -/
theorem yields_of_next
    (hSize : 0 < size)
    {answer : Except Error (Option Bytes)}
    {s' : PartSource}
    (h : next size s = (answer, s')) : Yields size s answer s' := by
  have hYields := next_yields hSize s
  rw [h] at hYields
  exact hYields

/-
  A source that does not fail gives the next slice of its rest,
  if there is any.
-/
theorem next_of_unbroken
    (hSize : 0 < size)
    (hUnbroken : s.failure? = none) :
    ∃ s',
      next size s =
        (.ok
          (if s.rest = [] then none
            else some (Bytes.ofList (s.rest.take size))), s') ∧
      s'.rest = s.rest.drop size ∧
      s'.failure? = none := by
  rcases hNext : next size s with ⟨answer, s'⟩
  refine ⟨s', ?_⟩
  cases yields_of_next hSize hNext with
  | failed _ hFailure =>
      rw [hUnbroken] at hFailure
      cases hFailure
  | ended hNone _ hRest hFailure =>
      rw [if_pos hNone, hNone, List.drop_nil]
      exact ⟨rfl, hRest, hFailure⟩
  | part hBytes hSome _ hRest hFailure =>
      rw [if_neg hSome, ← hBytes, Bytes.ofList_toList]
      exact ⟨rfl, hRest, hFailure.trans hUnbroken⟩

/-
  As long as there is enough for whole parts, they are given
  one after the other, and the source is left at what is behind
  them.
-/
theorem full_run
    (hSize : 0 < size)
    {count : Nat}
    (h : count * size ≤ s.rest.length) :
    ∃ full s',
      full.length = count ∧
      (∀ part ∈ full, part.size = size) ∧
      s.rest = full.flatMap (·.data.toList) ++ s'.rest ∧
      s'.failure? = s.failure? ∧
      ∀ n,
        answers size (count + n) s = given full ++ answers size n s' := by
  induction count generalizing s with
  | zero =>
      refine ⟨[], s, rfl, by simp, by simp, rfl, ?_⟩
      intro n
      rw [Nat.zero_add]
      exact (List.nil_append _).symm
  | succ count ih =>
      rw [Nat.succ_mul] at h
      rcases hNext : next size s with ⟨answer, s₁⟩
      cases yields_of_next hSize hNext with
      | ended hNone _ _ _ =>
          rw [hNone, List.length_nil] at h
          omega
      | failed hShort _ => omega
      | @part part _ hBytes hSome _ hRest hFailure =>
          have hPart : part.size = size := by
            rw [← Bytes.length_toList, hBytes, List.length_take]
            omega
          have hLater : count * size ≤ s₁.rest.length := by
            rw [hRest, List.length_drop]
            omega
          rcases ih hLater with
            ⟨full, s', hLength, hSized, hWhole, hSame, hRun⟩
          refine
            ⟨part :: full, s', by rw [List.length_cons, hLength], ?_,
              ?_, hSame.trans hFailure, ?_⟩
          · intro p hp
            rcases List.mem_cons.mp hp with rfl | hp
            · exact hPart
            · exact hSized p hp
          · rw [List.flatMap_cons, List.append_assoc, ← hWhole,
              hRest, hBytes, List.take_append_drop]
          · intro n
            rw [Nat.succ_add, answers_succ hNext, hRun]
            rfl

/- Of a source that is used up, nothing more is given. -/
theorem answers_of_used_up
    (hSize : 0 < size)
    (hNone : s.rest = [])
    (hUnbroken : s.failure? = none)
    (count : Nat) :
    answers size count s = List.replicate count (.ok none) := by
  induction count generalizing s with
  | zero => rfl
  | succ count ih =>
      rcases next_of_unbroken hSize hUnbroken with
        ⟨s', hNext, hRest, hFailure⟩
      rw [hNone, List.drop_nil] at hRest
      rw [answers_succ hNext, ih hRest hFailure, if_pos hNone,
        List.replicate_succ]

/-
  What is left behind the whole parts of a source that does not
  fail is given as a part, if it is anything.
-/
theorem answers_of_short
    (hSize : 0 < size)
    (hShort : s.rest.length < size)
    (hUnbroken : s.failure? = none)
    (count : Nat) :
    answers size
        ((Bytes.inParts [] (Bytes.ofList s.rest)).length + count) s =
      given (Bytes.inParts [] (Bytes.ofList s.rest)) ++
        List.replicate count (.ok none) := by
  rw [Bytes.inParts, Bytes.size_ofList]
  by_cases hNone : s.rest = []
  · rw [if_pos (by rw [hNone, List.length_nil]), List.length_nil,
      Nat.zero_add, answers_of_used_up hSize hNone hUnbroken]
    exact (List.nil_append _).symm
  · have hLength : s.rest.length ≠ 0 := by
      rwa [ne_eq, List.length_eq_zero_iff]
    rcases next_of_unbroken hSize hUnbroken with
      ⟨s', hNext, hRest, hFailure⟩
    rw [List.drop_of_length_le (Nat.le_of_lt hShort)] at hRest
    rw [if_neg hLength, List.nil_append, List.length_singleton,
      Nat.add_comm, answers_succ hNext, if_neg hNone,
      List.take_of_length_le (Nat.le_of_lt hShort),
      answers_of_used_up hSize hRest hFailure]
    rfl

/- What is left of a source that fails is not given. -/
theorem answers_of_failing
    (hSize : 0 < size)
    (hShort : s.rest.length < size)
    {e : Error}
    (hFailure : s.failure? = some e) :
    answers size 1 s = [.error e] := by
  rcases hNext : next size s with ⟨answer, s'⟩
  rw [answers_succ hNext]
  cases yields_of_next hSize hNext with
  | ended _ hUnbroken _ _ =>
      rw [hUnbroken] at hFailure
      cases hFailure
  | part _ _ hEnd _ _ =>
      rw [hEnd hShort] at hFailure
      cases hFailure
  | failed _ hFailed =>
      rw [hFailure] at hFailed
      cases hFailed
      rfl

/-
  Two sources that have the same left to give, and do not fail,
  answer alike.
-/
theorem answers_congr
    (hSize : 0 < size)
    {t : PartSource}
    (hSame : t.rest = s.rest)
    (hUnbroken : s.failure? = none)
    (hUnbroken' : t.failure? = none)
    (count : Nat) :
    answers size count t = answers size count s := by
  induction count generalizing s t with
  | zero => rfl
  | succ count ih =>
      rcases next_of_unbroken hSize hUnbroken with
        ⟨s', hNext, hRest, hFailure⟩
      rcases next_of_unbroken hSize hUnbroken' with
        ⟨t', hNext', hRest', hFailure'⟩
      rw [hSame, ← hRest] at hRest'
      rw [answers_succ hNext, answers_succ hNext', hSame,
        ih hRest' hFailure hFailure']

/-
  A source is cut into whole parts and what is left of it.  If
  it does not fail, all of that is given, and then nothing; if
  it fails, the whole parts are given, and then the failure.
-/
theorem exists_cut
    (hSize : 0 < size)
    (s : PartSource) :
    ∃ full left,
      Bytes.Cut size s.rest full left ∧
      (s.failure? = none →
        ∀ n,
          answers size ((Bytes.inParts full left).length + n) s =
            given (Bytes.inParts full left) ++
              List.replicate n (.ok none)) ∧
      ∀ e,
        s.failure? = some e →
        answers size (full.length + 1) s =
          given full ++ [.error e] := by
  have hWhole : s.rest.length / size * size ≤ s.rest.length :=
    Nat.div_mul_le_self _ _
  rcases full_run hSize hWhole with
    ⟨full, s', hLength, hSized, hRest, hFailure, hRun⟩
  have hShort : s'.rest.length < size := by
    have hMod := Nat.mod_lt s.rest.length hSize
    have hSplit := Nat.div_add_mod' s.rest.length size
    have hSum := congrArg List.length hRest
    rw [List.length_append, Bytes.length_flatMap_of_sized hSized,
      hLength] at hSum
    omega
  have hParts :
      Bytes.inParts full (Bytes.ofList s'.rest) =
        full ++ Bytes.inParts [] (Bytes.ofList s'.rest) := by
    rw [Bytes.inParts, Bytes.inParts]
    split
    · rw [List.append_nil]
    · rw [List.nil_append]
  refine ⟨full, Bytes.ofList s'.rest, ⟨?_, hSized, ?_⟩, ?_, ?_⟩
  · rw [hRest]
    simp [Bytes.ofList]
  · rwa [Bytes.size_ofList]
  · intro hUnbroken n
    rw [hParts, List.length_append, hLength, Nat.add_assoc, hRun,
      answers_of_short hSize hShort (hFailure.trans hUnbroken),
      given, given, given, List.map_append, List.append_assoc]
  · intro e hFails
    rw [hLength, hRun,
      answers_of_failing hSize hShort (hFailure.trans hFails)]

/-
  A body is regrouped into parts of one size.  What arrives of
  it is cut into whole slices, as many as fit, and what is left
  behind them.  A body that does not fail gives exactly these,
  one after the other, and then nothing: no part is empty, only
  the last may be short, and the chunks of the body make no
  difference.  A body that fails gives exactly the whole slices
  of what arrived before, and then its failure.
-/
theorem parts_regroup_body
    {size : Nat}
    (hSize : 0 < size)
    (body : Body) :
    ∃ full left,
      Bytes.Cut size body.arrived full left ∧
      (body.failure? = none →
        let parts := Bytes.inParts full left
        (∀ n,
          answers size (parts.length + n) (ofBody body) =
            given parts ++ List.replicate n (.ok none)) ∧
        parts.flatMap (·.data.toList) = body.arrived ∧
        parts.length = (body.arrived.length + size - 1) / size ∧
        (∀ part ∈ parts, 0 < part.size ∧ part.size ≤ size) ∧
        (∀ part ∈ parts.dropLast, part.size = size) ∧
        ∀ other : Body,
          other.arrived = body.arrived →
          other.failure? = none →
          ∀ n,
            answers size n (ofBody other) =
              answers size n (ofBody body)) ∧
      ∀ e,
        body.failure? = some e →
        full.length = body.arrived.length / size ∧
        (∀ part ∈ full, part.size = size) ∧
        answers size (full.length + 1) (ofBody body) =
          given full ++ [.error e] := by
  rcases exists_cut hSize (ofBody body) with
    ⟨full, left, hCut, hUnbroken, hFailing⟩
  rw [rest_ofBody] at hCut
  refine ⟨full, left, hCut, ?_, ?_⟩
  · intro hWhole
    refine
      ⟨hUnbroken hWhole, hCut.flatMap_inParts, hCut.length_inParts,
        fun _ hPart => hCut.size_of_mem_inParts hPart,
        fun _ hPart => hCut.size_of_mem_dropLast hPart, ?_⟩
    intro other hSame hWhole' n
    have hRest : (ofBody other).rest = (ofBody body).rest := by
      rw [rest_ofBody, rest_ofBody, hSame]
    exact answers_congr hSize hRest hWhole hWhole' n
  · intro e hFails
    exact ⟨hCut.length_full, hCut.sized, hFailing e hFails⟩

/- Seven bytes in three chunks, one of them empty. -/
def sampleBody : Body :=
  [.ok (Bytes.ofList [1, 2, 3, 4]), .ok Bytes.empty,
    .ok (Bytes.ofList [5, 6, 7])]

/- The same, but it fails before the last byte arrives. -/
def brokenBody : Body :=
  [.ok (Bytes.ofList [1, 2, 3, 4, 5, 6]), .error (.general "reset"),
    .ok (Bytes.ofList [7])]

/-
  In parts of three bytes, the one body comes as three parts,
  and of the other its failure follows the second part.
-/
theorem sampleBody_regrouped :
    0 < 3 ∧
    (∃ parts : List Bytes,
      parts.flatMap (·.data.toList) = [1, 2, 3, 4, 5, 6, 7] ∧
      parts.length = 3 ∧
      answers 3 (parts.length + 1) (ofBody sampleBody) =
        given parts ++ [.ok none]) ∧
    ∃ parts : List Bytes,
      parts.length = 2 ∧
      (∀ part ∈ parts, part.size = 3) ∧
      answers 3 (parts.length + 1) (ofBody brokenBody) =
        given parts ++ [.error (.general "reset")] := by
  have hSize : 0 < 3 := by omega
  rcases parts_regroup_body hSize sampleBody with
    ⟨full, left, _, hUnbroken, _⟩
  rcases parts_regroup_body hSize brokenBody with
    ⟨whole, _, _, _, hFailing⟩
  rcases hUnbroken rfl with ⟨hAnswers, hSame, hLength, _⟩
  rcases hFailing _ rfl with ⟨hCount, hSized, hLast⟩
  exact
    ⟨hSize, ⟨Bytes.inParts full left, hSame, hLength, hAnswers 1⟩,
      whole, hCount, hSized, hLast⟩

end PartSource

end StorageRouting
