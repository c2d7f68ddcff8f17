import StorageRouting.Proofs.Credential.Decryption

/-
  Padded blocks: stripping the padding undoes it, and nothing else
  is taken for a padded message.  A block can be read by the
  positions of its bytes as well; such a reading never asks for a
  position that the block does not have.

  Key definitions include:
    * `Rsa.PaddingFlaw`
    * `Rsa.messageAt`

  Main statements:
    * `Rsa.pad_eq_pad_iff`
    * `Rsa.filler_cases`
    * `Rsa.messageAt_eq`
    * `Rsa.stripPadding_undoes_pad`
-/

------------------------------------------------------------
-- Reading by Positions
------------------------------------------------------------

namespace StorageRouting

namespace Rsa

/-
  What is wrong with a block: it is too short or begins with other
  bytes, it has nothing behind the filler, or there is too little
  filler or no zero behind it.
-/
inductive PaddingFlaw where
| header : PaddingFlaw
| separator : PaddingFlaw
| filler : PaddingFlaw
deriving DecidableEq, Repr

/- The bytes from a position on, if the block reaches so far. -/
def bytesFrom?
    (block : List UInt8)
    (position : Nat) : Option (List UInt8) :=
  if position ≤ block.length then some (block.drop position)
  else none

/-
  The message of a block that is read by positions.  There is no
  answer at all if a position outside the block is read.
-/
def messageAt
    (block : List UInt8) :
    Option (Except PaddingFlaw (List UInt8)) :=
  if block.length < 11 then some (.error .header)
  else do
    let first ← block[0]?
    if first ≠ 0 then return .error .header
    else
      let second ← block[1]?
      if second ≠ 1 then return .error .header
      else
        let rest ← bytesFrom? block 2
        match (rest.findIdx? (· != 0xFF)).map (· + 2) with
        | none => return .error .separator
        | some separator =>
            let stop ← block[separator]?
            if stop ≠ 0 ∨ separator < 10 then return .error .filler
            else
              let message ← bytesFrom? block (separator + 1)
              return .ok message

end Rsa

end StorageRouting

------------------------------------------------------------
-- Filler
------------------------------------------------------------

namespace StorageRouting

namespace Rsa

/-
  Bytes are filler only, or filler up to the first byte that is
  something else.
-/
theorem filler_cases (bs : List UInt8) :
    (∃ count, bs = List.replicate count 0xFF) ∨
      ∃ count b rest,
        b ≠ 0xFF ∧ bs = List.replicate count 0xFF ++ b :: rest := by
  induction bs with
  | nil => exact .inl ⟨0, rfl⟩
  | cons b rest ih =>
      by_cases hFiller : b = 0xFF
      · subst hFiller
        rcases ih with ⟨count, rfl⟩ | ⟨count, c, after, hStop, rfl⟩
        · exact .inl ⟨count + 1, rfl⟩
        · exact .inr ⟨count + 1, c, after, hStop, rfl⟩
      · exact .inr ⟨0, b, rest, hFiller, rfl⟩

/- The first other byte stands right behind the filler. -/
theorem findIdx?_filler_append
    (count : Nat)
    {b : UInt8}
    (hStop : b ≠ 0xFF)
    (rest : List UInt8) :
    (List.replicate count 0xFF ++ b :: rest).findIdx?
        (· != (0xFF : UInt8)) =
      some count := by
  have hFound : (b != 0xFF) = true := bne_iff_ne.mpr hStop
  rw [List.findIdx?_append, List.findIdx?_cons, hFound]
  simp

/- A padded message determines its filler and its message. -/
theorem pad_eq_pad_iff
    {filler filler' : Nat}
    {message message' : List UInt8} :
    pad filler message = pad filler' message' ↔
      filler = filler' ∧ message = message' := by
  constructor
  · intro h
    have hZero : (0 : UInt8) ≠ 0xFF := by decide
    simp only [pad, List.cons_append, List.cons.injEq,
      true_and] at h
    have hFiller : filler = filler' := by
      have hFound :=
        (findIdx?_filler_append filler hZero message).symm.trans
          (h ▸ findIdx?_filler_append filler' hZero message')
      exact Option.some.inj hFound
    subst hFiller
    exact ⟨rfl, List.tail_eq_of_cons_eq (List.append_cancel_left h)⟩
  · rintro ⟨rfl, rfl⟩
    rfl

end Rsa

end StorageRouting

------------------------------------------------------------
-- Blocks
------------------------------------------------------------

namespace StorageRouting

namespace Rsa

theorem stripPadding?_eq_none_iff
    {block : List UInt8} :
    stripPadding? block = none ↔
      ∀ filler message,
        8 ≤ filler → pad filler message ≠ block := by
  rw [Option.eq_none_iff_forall_ne_some]
  simp only [ne_eq, stripPadding?_eq_some_iff, not_exists, not_and]
  exact forall_comm

/- A block that is too short has no message. -/
theorem stripPadding?_of_short
    {block : List UInt8}
    (h : block.length < 11) : stripPadding? block = none := by
  rw [stripPadding?_eq_none_iff]
  rintro filler message hLong rfl
  rw [length_pad] at h
  omega

/- Filler alone has no message. -/
theorem stripPadding?_filler (count : Nat) :
    stripPadding? (0 :: 1 :: List.replicate count 0xFF) = none := by
  simp [stripPadding?]

/- Behind enough filler and a zero there is the message. -/
theorem stripPadding?_filler_append
    (count : Nat)
    {b : UInt8}
    (hStop : b ≠ 0xFF)
    (rest : List UInt8) :
    stripPadding?
        (0 :: 1 :: (List.replicate count 0xFF ++ b :: rest)) =
      if b ≠ 0 ∨ count < 8 then none else some rest := by
  have hNot : (b == 0xFF) = false := beq_eq_false_iff_ne.mpr hStop
  have hTake :
      (List.replicate count 0xFF ++ b :: rest).takeWhile
          (· == (0xFF : UInt8)) =
        List.replicate count 0xFF := by
    rw [List.takeWhile_append_of_pos (by simp)]
    simp [hNot]
  have hDrop :
      (List.replicate count 0xFF ++ b :: rest).dropWhile
          (· == (0xFF : UInt8)) =
        b :: rest := by
    rw [List.dropWhile_append_of_pos (by simp)]
    simp [hNot]
  simp only [stripPadding?, hTake, hDrop, List.length_replicate]
  by_cases hZero : b = 0
  · subst hZero
    simp only [ne_eq, not_true_eq_false, false_or]
    by_cases hLong : 8 ≤ count
    · rw [if_pos hLong, if_neg (by omega)]
    · rw [if_neg hLong, if_pos (by omega)]
  · rw [if_pos (.inl hZero)]
    split
    · rename_i h
      injection h with hHead
      exact absurd hHead hZero
    · rfl

/- A message stands behind the bytes 0 and 1 only. -/
theorem stripPadding?_header
    {first second : UInt8}
    (h : ¬ (first = 0 ∧ second = 1))
    (rest : List UInt8) :
    stripPadding? (first :: second :: rest) = none := by
  rw [stripPadding?_eq_none_iff]
  intro filler message _ hBlock
  simp only [pad, List.cons_append, List.cons.injEq] at hBlock
  exact h ⟨hBlock.1.symm, hBlock.2.1.symm⟩

theorem messageAt_header
    {first second : UInt8}
    (h : ¬ (first = 0 ∧ second = 1))
    (rest : List UInt8) :
    messageAt (first :: second :: rest) =
      some (.error .header) := by
  unfold messageAt
  split
  · rfl
  · by_cases hFirst : first = 0
    · have hSecond : second ≠ 1 := fun hOne => h ⟨hFirst, hOne⟩
      simp [hFirst, hSecond]
    · simp [hFirst]

variable (count : Nat)

theorem messageAt_filler
    (hLong : 9 ≤ count) :
    messageAt (0 :: 1 :: List.replicate count 0xFF) =
      some (.error .separator) := by
  have hLength :
      ¬ (0 :: 1 :: List.replicate count (0xFF : UInt8)).length <
        11 := by
    simp only [List.length_cons, List.length_replicate]
    omega
  rw [messageAt, if_neg hLength]
  simp [bytesFrom?]

theorem messageAt_filler_append
    {b : UInt8}
    (hStop : b ≠ 0xFF)
    (rest : List UInt8)
    (hLong : 8 ≤ count + rest.length) :
    messageAt
        (0 :: 1 :: (List.replicate count 0xFF ++ b :: rest)) =
      some
        (if b ≠ 0 ∨ count < 8 then .error .filler
          else .ok rest) := by
  let block := 0 :: 1 :: (List.replicate count 0xFF ++ b :: rest)
  have hLength : block.length = count + rest.length + 3 := by
    simp only [block, List.length_cons, List.length_append,
      List.length_replicate]
    omega
  have hBehind :
      bytesFrom? block 2 =
        some (List.replicate count 0xFF ++ b :: rest) := by
    simp [bytesFrom?, block]
  have hByte : block[count + 2]? = some b := by
    simp [block]
  have hMessage : bytesFrom? block (count + 2 + 1) = some rest := by
    rw [bytesFrom?, if_pos (by omega)]
    simp [block, List.drop_append]
  have hSmall : count + 2 < 10 ↔ count < 8 := by omega
  change messageAt block = _
  rw [messageAt, if_neg (by omega), hBehind]
  simp only [block, List.getElem?_cons_zero, List.getElem?_cons_succ,
    Option.bind_eq_bind, Option.bind_some, ne_eq, not_true_eq_false,
    if_false, findIdx?_filler_append count hStop, Option.map_some]
  change (block[count + 2]?.bind _) = _
  rw [hByte, Option.bind_some]
  by_cases hFlaw : b ≠ 0 ∨ count < 8
  · rw [if_pos (hFlaw.imp_right hSmall.mpr), if_pos hFlaw]
    rfl
  · rw [if_neg (fun h => hFlaw (h.imp_right hSmall.mp)),
      if_neg hFlaw]
    change (bytesFrom? block (count + 2 + 1)).bind _ = _
    rw [hMessage]
    rfl

/-
  A block that is read by positions is read to an end, and its
  message is what is left when the padding is stripped.
-/
theorem messageAt_eq (block : List UInt8) :
    ∃ answer,
      messageAt block = some answer ∧
        answer.toOption = stripPadding? block := by
  by_cases hShort : block.length < 11
  · exact
      ⟨.error .header, if_pos hShort,
        (stripPadding?_of_short hShort).symm⟩
  rcases block with _ | ⟨first, _ | ⟨second, rest⟩⟩
  · exact absurd (by decide) hShort
  · exact absurd (by simp) hShort
  by_cases hHeader : first = 0 ∧ second = 1
  case neg =>
    exact
      ⟨.error .header, messageAt_header hHeader rest,
        (stripPadding?_header hHeader rest).symm⟩
  rcases hHeader with ⟨rfl, rfl⟩
  rcases filler_cases rest with
    ⟨count, rfl⟩ | ⟨count, b, after, hStop, rfl⟩
  · have hLong : 9 ≤ count := by
      simp only [List.length_cons, List.length_replicate] at hShort
      omega
    exact
      ⟨.error .separator, messageAt_filler count hLong,
        (stripPadding?_filler count).symm⟩
  · have hLong : 8 ≤ count + after.length := by
      simp only [List.length_cons, List.length_append,
        List.length_replicate] at hShort
      omega
    refine
      ⟨_, messageAt_filler_append count hStop after hLong, ?_⟩
    rw [stripPadding?_filler_append count hStop after]
    split <;> rfl

/-
  Stripping the padding answers with a message exactly for the
  blocks of that message with at least eight bytes of filler; the
  filler and the message are the only ones for such a block, and
  every other block is refused.  So a padded message is read back.
  Read by positions, a block is read to an end with the same
  answer, and no position outside it is asked for.
-/
theorem stripPadding_undoes_pad (block : List UInt8) :
    (∀ message,
      stripPadding? block = some message ↔
        ∃ filler, 8 ≤ filler ∧ block = pad filler message) ∧
      (stripPadding? block = none ↔
        ¬ ∃ filler message,
          8 ≤ filler ∧ block = pad filler message) ∧
      (∀ filler message filler' message',
        block = pad filler message →
        block = pad filler' message' →
        filler = filler' ∧ message = message') ∧
      (∀ filler message,
        8 ≤ filler →
        stripPadding? (pad filler message) = some message) ∧
      ∃ answer,
        messageAt block = some answer ∧
          answer.toOption = stripPadding? block ∧
          ∀ message,
            answer = .ok message ↔
              ∃ filler, 8 ≤ filler ∧ block = pad filler message := by
  have hIff (message : List UInt8) :
      stripPadding? block = some message ↔
        ∃ filler, 8 ≤ filler ∧ block = pad filler message := by
    rw [stripPadding?_eq_some_iff]
    simp only [eq_comm]
  refine ⟨hIff, ?_, ?_, ?_, ?_⟩
  · rw [stripPadding?_eq_none_iff]
    simp only [not_exists, not_and, ne_eq, eq_comm]
  · rintro filler message filler' message' rfl hSame
    exact pad_eq_pad_iff.mp hSame
  · intro filler message hLong
    exact stripPadding?_eq_some_iff.mpr ⟨filler, hLong, rfl⟩
  · rcases messageAt_eq block with ⟨answer, hRead, hAnswer⟩
    refine ⟨answer, hRead, hAnswer, fun message => ?_⟩
    rw [← hIff, ← hAnswer]
    cases answer <;> simp [Except.toOption]

/-
  A message that looks like padding itself is read back from the
  shortest filler, and is not found behind less.
-/
theorem stripPadding_undoes_shortest_pad :
    let message : List UInt8 := [0xFF, 0, 1]
    8 ≤ 8 ∧
      stripPadding? (pad 8 message) = some message ∧
      stripPadding? (pad 7 message) = none := by
  intro message
  have hLong : 8 ≤ 8 := Nat.le_refl 8
  refine
    ⟨hLong,
      (stripPadding_undoes_pad (pad 8 message)).2.2.2.1 8 message
        hLong, ?_⟩
  rw [(stripPadding_undoes_pad (pad 7 message)).2.1]
  rintro ⟨filler, other, hFiller, hSame⟩
  have hShort := (pad_eq_pad_iff.mp hSame).1
  omega

end Rsa

end StorageRouting
