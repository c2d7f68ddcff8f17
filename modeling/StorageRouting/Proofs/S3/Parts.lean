import StorageRouting.S3.Parts

/-
  The parts of a body are the slices of what arrives of it,
  whatever the chunks are.

  Key definitions include:
    * `Body.arrived`
    * `Body.failure?`
    * `PartSource.rest`
    * `PartSource.Yields`

  Main statements:
    * `PartSource.next_yields`
    * `PartSource.length_rest_le_bound`
-/

------------------------------------------------------------
-- What Arrives of a Body
------------------------------------------------------------

namespace StorageRouting

namespace Body

/- The bytes of a body up to its failure, if it fails. -/
def arrived : Body → List UInt8
| [] => []
| .ok chunk :: rest => chunk.data.toList ++ arrived rest
| .error _ :: _ => []

/- The failure that ends a body, if there is one. -/
def failure? : Body → Option Error
| [] => none
| .ok _ :: rest => failure? rest
| .error e :: _ => some e

end Body

end StorageRouting

------------------------------------------------------------
-- What Is Left of a Source
------------------------------------------------------------

namespace StorageRouting

namespace PartSource

/- The bytes that a source still has to give. -/
def rest (s : PartSource) : List UInt8 :=
  s.ahead.data.toList ++ s.body.arrived

/- The failure that ends a source, if there is one. -/
def failure? (s : PartSource) : Option Error :=
  s.body.failure?

theorem rest_ofBody (body : Body) :
    (ofBody body).rest = body.arrived :=
  rfl

/- A chunk that is read ahead is still to be given. -/
theorem rest_readAhead
    (ahead chunk : Bytes)
    (body : Body) :
    rest ⟨ahead ++ chunk, body⟩ = rest ⟨ahead, .ok chunk :: body⟩ := by
  simp [rest, Body.arrived]

/- The bound is not less than what is left. -/
theorem length_rest_le_bound (s : PartSource) :
    s.rest.length ≤ s.bound := by
  rcases s with ⟨ahead, body⟩
  induction body generalizing ahead with
  | nil => simp [rest, Body.arrived, bound]
  | cons chunk body ih =>
      cases chunk with
      | ok bytes =>
          have hBound :
              bound ⟨ahead, .ok bytes :: body⟩ =
                bound ⟨ahead ++ bytes, body⟩ := by
            simp only [bound, List.foldl_cons, ByteArray.size_append]
          rw [← rest_readAhead, hBound]
          exact ih (ahead ++ bytes)
      | error e =>
          have hRest := ih ahead
          have hBound :
              bound ⟨ahead, .error e :: body⟩ =
                bound ⟨ahead, body⟩ :=
            rfl
          rw [hBound]
          simp only [rest, Body.arrived, List.length_append,
            List.length_nil] at hRest ⊢
          omega

end PartSource

end StorageRouting

------------------------------------------------------------
-- The Next Part
------------------------------------------------------------

namespace StorageRouting

namespace PartSource

/-
  What asking for the next part can come to.  A part is the next
  slice, and short only at the end of a body that does not fail.
-/
inductive Yields
    (size : Nat)
    (s : PartSource) :
    Except Error (Option Bytes) → PartSource → Prop
| part
    {p : Bytes}
    {s' : PartSource}
    (bytes : p.data.toList = s.rest.take size)
    (some_left : s.rest ≠ [])
    (short : s.rest.length < size → s.failure? = none)
    (rest : s'.rest = s.rest.drop size)
    (failure : s'.failure? = s.failure?) :
    Yields size s (.ok (some p)) s'
| ended
    {s' : PartSource}
    (none_left : s.rest = [])
    (unbroken : s.failure? = none)
    (rest : s'.rest = [])
    (failure : s'.failure? = none) :
    Yields size s (.ok none) s'
| failed
    {e : Error}
    {s' : PartSource}
    (short : s.rest.length < size)
    (failure : s.failure? = some e) :
    Yields size s (.error e) s'

/-
  Filling up reads ahead to the size, to the end of the body, or
  to its failure.
-/
theorem fill_cases
    (size : Nat)
    (ahead : Bytes)
    (body : Body) :
    (∃ ahead' body',
      fill size ahead body = (.ok (), ⟨ahead', body'⟩) ∧
      rest ⟨ahead', body'⟩ = rest ⟨ahead, body⟩ ∧
      body'.failure? = body.failure? ∧
      (size ≤ ahead'.size ∨ body' = [])) ∨
    (∃ e s',
      fill size ahead body = (.error e, s') ∧
      (rest ⟨ahead, body⟩).length < size ∧
      body.failure? = some e) := by
  induction body generalizing ahead with
  | nil => exact Or.inl ⟨ahead, [], rfl, rfl, rfl, Or.inr rfl⟩
  | cons chunk body ih =>
      by_cases hFull : size ≤ ahead.size
      · have hFill :
            fill size ahead (chunk :: body) =
              (.ok (), ⟨ahead, chunk :: body⟩) := by
          simp only [fill, hFull, if_true]
        exact Or.inl
          ⟨ahead, chunk :: body, hFill, rfl, rfl, Or.inl hFull⟩
      · cases chunk with
        | ok bytes =>
            have hFill :
                fill size ahead (.ok bytes :: body) =
                  fill size (ahead ++ bytes) body := by
              simp only [fill, hFull, if_false]
            rw [hFill, ← rest_readAhead]
            exact ih (ahead ++ bytes)
        | error e =>
            have hFill :
                fill size ahead (.error e :: body) =
                  (.error e, ⟨ahead, body⟩) := by
              simp only [fill, hFull, if_false]
            have hShort :
                (rest ⟨ahead, .error e :: body⟩).length < size := by
              simp only [rest, Body.arrived, List.append_nil,
                Array.length_toList]
              simp only [ByteArray.size] at hFull
              omega
            exact Or.inr ⟨e, ⟨ahead, body⟩, hFill, hShort, rfl⟩

theorem toList_extract_front
    (b : Bytes)
    (n : Nat) :
    (b.extract 0 n).data.toList = b.data.toList.take n := by
  simp [ByteArray.data_extract]

theorem toList_extract_back
    (b : Bytes)
    (n : Nat) :
    (b.extract n b.size).data.toList = b.data.toList.drop n := by
  have hLength : b.data.toList.length = b.size :=
    Array.length_toList
  rw [ByteArray.data_extract, Array.toList_extract,
    List.extract_eq_take_drop, ← hLength, ← List.length_drop,
    List.take_length]

/- The next part of a source is the next slice of its rest. -/
theorem next_yields
    {size : Nat}
    (hSize : 0 < size)
    (s : PartSource) :
    Yields size s (next size s).1 (next size s).2 := by
  rcases s with ⟨ahead, body⟩
  rcases fill_cases size ahead body with
    ⟨ahead', body', hFill, hRest, hFailure, hStop⟩ |
      ⟨e, s', hFill, hShort, hFailure⟩
  · simp only [next, hFill]
    by_cases hEmpty : ahead'.size = 0
    · -- nothing was read ahead, so the body is at its end
      have hBody : body' = [] := by
        rcases hStop with hStop | hStop
        · omega
        · exact hStop
      have hNone : ahead'.data.toList = [] := by
        apply List.eq_nil_of_length_eq_zero
        rw [Array.length_toList]
        exact hEmpty
      subst hBody
      have hUsedUp : rest ⟨ahead', []⟩ = [] := by
        rw [rest, hNone]
        rfl
      rw [if_pos hEmpty]
      exact
        Yields.ended (hRest ▸ hUsedUp) hFailure.symm hUsedUp rfl
    · rw [if_neg hEmpty]
      have hAhead : ahead'.data.toList.length = ahead'.size :=
        Array.length_toList
      have hWhole :
          rest ⟨ahead, body⟩ =
            ahead'.data.toList ++ body'.arrived :=
        hRest.symm
      apply Yields.part
      · rw [toList_extract_front, hWhole]
        rcases hStop with hStop | rfl
        · rw [List.take_append_of_le_length (hAhead ▸ hStop)]
        · simp [Body.arrived]
      · intro hNone
        rw [hWhole] at hNone
        rw [(List.append_eq_nil_iff.mp hNone).1] at hAhead
        exact hEmpty hAhead.symm
      · intro hShort
        rcases hStop with hStop | rfl
        · rw [hWhole, List.length_append, hAhead] at hShort
          omega
        · exact hFailure.symm
      · rw [hWhole, rest, toList_extract_back]
        rcases hStop with hStop | rfl
        · rw [List.drop_append_of_le_length (hAhead ▸ hStop)]
        · simp [Body.arrived]
      · exact hFailure
  · simp only [next, hFill]
    exact Yields.failed hShort hFailure

end PartSource

end StorageRouting
