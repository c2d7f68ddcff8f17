import StorageRouting.Bytes.Basic
import StorageRouting.Text.Hex

/-
  Percent encoding of text.

  Key definitions include:
    * `Url.percentByte`
    * `Url.percentEncode`
    * `Url.percentDecode`
-/

------------------------------------------------------------
-- Encoding
------------------------------------------------------------

namespace StorageRouting

namespace Url

/- A byte as a percent sign and two hexadecimal digits. -/
def percentByte (b : UInt8) : List Char :=
  ['%', Hex.upperDigit (b.toNat / 16),
    Hex.upperDigit (b.toNat % 16)]

/- The bytes of a character in percent form. -/
def percentChar (c : Char) : List Char :=
  (String.singleton c).toUTF8.toList.flatMap percentByte

/-
  Encode the characters of a set, and all that are not ASCII.
-/
def percentEncode
    (set : Char → Bool)
    (cs : List Char) : List Char :=
  cs.flatMap (fun c =>
    if 127 ≤ c.toNat || set c then percentChar c else [c])

/- Encode a string. -/
def percentText
    (set : Char → Bool)
    (s : String) : String :=
  String.ofList (percentEncode set s.toList)

end Url

end StorageRouting

------------------------------------------------------------
-- Decoding
------------------------------------------------------------

namespace StorageRouting

namespace Url

/-
  The bytes of a text in which percent forms stand for bytes;
  a percent sign without two digits stands for itself.
-/
def percentBytes : List Char → List UInt8
| '%' :: a :: b :: rest =>
    match Hex.value? a, Hex.value? b with
    | some x, some y =>
        UInt8.ofNat (x * 16 + y) :: percentBytes rest
    | _, _ => 37 :: percentBytes (a :: b :: rest)
| c :: rest =>
    (String.singleton c).toUTF8.toList ++ percentBytes rest
| [] => []

/- The text in which percent forms are decoded, if it is one. -/
def percentDecode? (cs : List Char) : Option String :=
  (Bytes.ofList (percentBytes cs)).toString?

end Url

end StorageRouting

------------------------------------------------------------
-- Sets
------------------------------------------------------------

namespace StorageRouting

namespace Url

/- The control characters of ASCII. -/
def controlSet (c : Char) : Bool :=
  c.toNat < 32 || c.toNat == 127

/- What is encoded in a fragment. -/
def fragmentSet (c : Char) : Bool :=
  controlSet c || [' ', '"', '<', '>', '\x60'].contains c

/- What is encoded in a path. -/
def pathSet (c : Char) : Bool :=
  fragmentSet c || ['#', '?', '\x7b', '\x7d'].contains c

/- What is encoded in a user name or password. -/
def userSet (c : Char) : Bool :=
  pathSet c ||
    ['/', ':', ';', '=', '@', '[', '\\', ']', '^', '|'].contains c

/- What is encoded in a query. -/
def querySet
    (special : Bool)
    (c : Char) : Bool :=
  controlSet c || [' ', '"', '#', '<', '>'].contains c ||
    (special && c == '\'')

/- What is encoded in all but letters, digits and four marks. -/
def reservedSet (c : Char) : Bool :=
  !(c.isAlphanum || ['-', '.', '_', '~'].contains c)

end Url

end StorageRouting
