import StorageRouting.Proofs.Text.Order
import StorageRouting.Url.Encoding

/-
  Text in percent form is read back as it was, and holds none of
  the characters that are encoded.

  Main statements:
    * `Url.percentBytes_percentEncode`
    * `Url.percentDecode?_percentText`
    * `Url.not_mem_percentText`
-/

------------------------------------------------------------
-- Bytes
------------------------------------------------------------

namespace StorageRouting

/- The bytes that a walk collects are those from its place on. -/
theorem Bytes.toListLoop_eq
    (b : Bytes)
    (n i : Nat)
    (seen : List UInt8)
    (h : b.size = i + n) :
    ByteArray.toList.loop b i seen =
      seen.reverse ++ b.data.toList.drop i := by
  induction n generalizing i seen with
  | zero =>
      have hEnd : b.data.toList.length ≤ i := Nat.le_of_eq h
      rw [ByteArray.toList.loop, if_neg (by omega),
        List.drop_eq_nil_of_le hEnd, List.append_nil]
  | succ n ih =>
      have hHere : i < b.data.toList.length := by
        change i < b.size
        omega
      have hByte : b.get! i = b.data.toList[i] :=
        getElem!_pos b.data i hHere
      rw [ByteArray.toList.loop, if_pos (by omega),
        ih (i + 1) _ (by omega), List.drop_eq_getElem_cons hHere,
        hByte, List.reverse_cons, List.append_assoc,
        List.singleton_append]

/- The bytes of a character, in a list. -/
theorem Text.toList_singleton
    (c : Char) :
    (String.singleton c).toUTF8.toList = String.utf8EncodeChar c := by
  have hWalk :=
    Bytes.toListLoop_eq (String.singleton c).toUTF8 _ 0 []
      (Nat.zero_add _).symm
  have hBytes := Text.utf8_eq_flatMap (String.singleton c)
  rw [String.toList_singleton, List.flatMap_singleton] at hBytes
  exact hWalk.trans hBytes

/- A digit is read as the number that it was written for. -/
theorem Hex.value?_upperDigit :
    ∀ n < 16, value? (upperDigit n) = some n := by
  decide

namespace Url

theorem percentBytes_percentByte
    (b : UInt8)
    (rest : List Char) :
    percentBytes (percentByte b ++ rest) =
      b :: percentBytes rest := by
  have hByte : b.toNat < 256 := b.toNat_lt
  have hHigh :=
    Hex.value?_upperDigit (b.toNat / 16)
      (Nat.div_lt_of_lt_mul hByte)
  have hLow :=
    Hex.value?_upperDigit (b.toNat % 16)
      (Nat.mod_lt _ (by decide))
  have hSame : b.toNat / 16 * 16 + b.toNat % 16 = b.toNat := by
    omega
  simp only [percentByte, List.cons_append, List.nil_append,
    percentBytes, hHigh, hLow, hSame, UInt8.ofNat_toNat]

theorem percentBytes_flatMap
    (bs : List UInt8)
    (rest : List Char) :
    percentBytes (bs.flatMap percentByte ++ rest) =
      bs ++ percentBytes rest := by
  induction bs with
  | nil => rfl
  | cons b bs ih =>
      rw [List.flatMap_cons, List.append_assoc,
        percentBytes_percentByte, ih, List.cons_append]

/- Another character than the percent sign stands for itself. -/
theorem percentBytes_cons
    {c : Char}
    (h : c ≠ '%')
    (rest : List Char) :
    percentBytes (c :: rest) =
      (String.singleton c).toUTF8.toList ++ percentBytes rest := by
  rw [percentBytes.eq_def]
  split
  · rename_i hSame
    exact absurd (List.cons.inj hSame).1 h
  · rename_i hSame
    rw [(List.cons.inj hSame).1, (List.cons.inj hSame).2]
  · rename_i hNone
    cases hNone

end Url

end StorageRouting

------------------------------------------------------------
-- Texts
------------------------------------------------------------

namespace StorageRouting

namespace Url

variable {set : Char → Bool}

/- The bytes of a text in percent form are those of the text. -/
theorem percentBytes_percentEncode
    (h : set '%' = true)
    (cs : List Char) :
    percentBytes (percentEncode set cs) =
      cs.flatMap (fun c => (String.singleton c).toUTF8.toList) := by
  induction cs with
  | nil => rfl
  | cons c cs ih =>
      have hSplit :
          percentEncode set (c :: cs) =
            (if 127 ≤ c.toNat || set c then percentChar c else [c]) ++
              percentEncode set cs :=
        List.flatMap_cons
      rw [hSplit, List.flatMap_cons]
      split
      · rw [percentChar, percentBytes_flatMap, ih]
      · rename_i hPlain
        have hOther : c ≠ '%' := by
          rintro rfl
          apply hPlain
          rw [h, Bool.or_true]
        rw [List.singleton_append, percentBytes_cons hOther, ih]

/- A text in percent form is read back. -/
theorem percentDecode?_percentText
    (h : set '%' = true)
    (s : String) :
    percentDecode? (percentText set s).toList = some s := by
  have hBytes :
      percentBytes (percentText set s).toList = Text.utf8 s := by
    rw [percentText, String.toList_ofList, percentBytes_percentEncode h,
      Text.utf8_eq_flatMap]
    simp only [Text.toList_singleton]
  rw [percentDecode?, hBytes, Text.utf8, Bytes.ofList_toList,
    Bytes.toString?_ofString]

/- A character that is encoded does not stand in the text. -/
theorem not_mem_percentText
    {d : Char}
    (hSet : set d = true)
    (hMark : d ≠ '%')
    (hDigit : Hex.value? d = none)
    (s : String) :
    d ∉ (percentText set s).toList := by
  rw [percentText, String.toList_ofList, percentEncode,
    List.mem_flatMap]
  rintro ⟨c, -, hMem⟩
  split at hMem
  · rcases List.mem_flatMap.mp hMem with ⟨b, -, hForm⟩
    have hByte : b.toNat < 256 := b.toNat_lt
    have hOther : ∀ n < 16, d ≠ Hex.upperDigit n := by
      rintro n hn rfl
      rw [Hex.value?_upperDigit n hn] at hDigit
      cases hDigit
    simp only [percentByte, List.mem_cons, List.not_mem_nil,
      or_false] at hForm
    rcases hForm with hForm | hForm | hForm
    · exact hMark hForm
    · exact hOther _ (by omega) hForm
    · exact hOther _ (by omega) hForm
  · rename_i hPlain
    rw [List.mem_singleton] at hMem
    rw [← hMem, hSet, Bool.or_true] at hPlain
    exact hPlain rfl

end Url

end StorageRouting
