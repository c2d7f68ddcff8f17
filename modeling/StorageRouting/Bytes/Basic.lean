import StorageRouting.Text.Hex

/-
  Byte strings.

  Key definitions include:
    * `Bytes`
    * `Bytes.ofString`
    * `Bytes.toString?`
    * `Bytes.repeated`
    * `Bytes.hex`
-/

------------------------------------------------------------
-- Byte Strings
------------------------------------------------------------

namespace StorageRouting

/- A sequence of bytes. -/
abbrev Bytes :=
  ByteArray

namespace Bytes

/- No bytes. -/
def empty : Bytes :=
  ByteArray.empty

/- The bytes of a text in UTF-8. -/
def ofString (s : String) : Bytes :=
  s.toUTF8

theorem ofString_append (s t : String) :
    ofString (s ++ t) = ofString s ++ ofString t :=
  String.toByteArray_append

/- The text that bytes denote in UTF-8, if they denote one. -/
def toString? (b : Bytes) : Option String :=
  String.fromUTF8? b

/- The bytes of a text are read back as the text. -/
theorem toString?_ofString (s : String) :
    (ofString s).toString? = some s := by
  unfold toString? ofString String.fromUTF8?
  rw [String.toUTF8_eq_toByteArray, dif_pos s.isValidUTF8]
  rfl

/- The text of bytes, without what is no UTF-8. -/
def toStringOr
    (b : Bytes)
    (other : String) : String :=
  (toString? b).getD other

/- Bytes of a list. -/
def ofList (bs : List UInt8) : Bytes :=
  ⟨bs.toArray⟩

theorem size_ofList (bs : List UInt8) :
    (ofList bs).size = bs.length := by
  simp [ofList, ByteArray.size]

theorem ofList_toList (b : Bytes) : ofList b.data.toList = b := by
  simp [ofList]

/- Append one byte string to itself so many times. -/
def repeated
    (b : Bytes) :
    Nat → Bytes
| 0 => empty
| n + 1 =>
    let half := repeated b ((n + 1) / 2)
    if (n + 1) % 2 = 0 then half ++ half
    else half ++ half ++ b

end Bytes

end StorageRouting

------------------------------------------------------------
-- Hexadecimal Form
------------------------------------------------------------

namespace StorageRouting

namespace Bytes

/- Two hexadecimal digits of a byte. -/
def hexOfByte (b : UInt8) : List Char :=
  [Hex.digit (b.toNat / 16), Hex.digit (b.toNat % 16)]

/- Two hexadecimal digits for each byte. -/
def hex (b : Bytes) : String :=
  String.ofList (b.toList.flatMap hexOfByte)

/- The bytes of pairs of hexadecimal digits. -/
def bytesOfHex? : List Char → Option (List UInt8)
| [] => some []
| [_] => none
| a :: b :: rest => do
    let high ← Hex.value? a
    let low ← Hex.value? b
    let more ← bytesOfHex? rest
    return (high * 16 + low).toUInt8 :: more

/- The bytes of a hexadecimal text. -/
def ofHex? (s : String) : Option Bytes :=
  (bytesOfHex? s.toList).map ofList

end Bytes

end StorageRouting
