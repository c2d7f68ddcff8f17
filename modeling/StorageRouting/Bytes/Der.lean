import StorageRouting.Bytes.Basic

/-
  The distinguished encoding of tagged values, as far as public
  keys need it.

  Key definitions include:
    * `Der.element?`
    * `Der.natural?`
    * `Der.ofBytes`
    * `Der.toBytes`
-/

------------------------------------------------------------
-- Numbers as Bytes
------------------------------------------------------------

namespace StorageRouting

namespace Der

/- The number that bytes denote, the highest first. -/
def ofBytes (bs : List UInt8) : Nat :=
  bs.foldl (fun n b => n * 256 + b.toNat) 0

/- So many bytes of a number, the highest first. -/
def toBytes : Nat → Nat → List UInt8
| 0, _ => []
| count + 1, n =>
    toBytes count (n / 256) ++ [(n % 256).toUInt8]

end Der

end StorageRouting

------------------------------------------------------------
-- Elements
------------------------------------------------------------

namespace StorageRouting

namespace Der

/-
  The length at the start of a text: one byte below 128, else
  as many bytes as the first one says, and no more than needed.
-/
def length? :
    List UInt8 → Option (Nat × List UInt8)
| [] => none
| b :: rest =>
    if b < 0x80 then some (b.toNat, rest)
    else
      let count := b.toNat - 128
      let digits := rest.take count
      let n := ofBytes digits
      if 1 ≤ count ∧ count ≤ 4 ∧ digits.length = count ∧
          128 ≤ n ∧ digits.head? ≠ some 0 then
        some (n, rest.drop count)
      else none

/- The content of an element of a tag, and what follows it. -/
def element?
    (tag : UInt8)
    (bs : List UInt8) : Option (List UInt8 × List UInt8) := do
  match bs with
  | b :: rest =>
      if b = tag then
        let (n, rest) ← length? rest
        if n ≤ rest.length then
          return (rest.take n, rest.drop n)
        else none
      else none
  | [] => none

/- The content of the only element of a text. -/
def only?
    (tag : UInt8)
    (bs : List UInt8) : Option (List UInt8) :=
  match element? tag bs with
  | some (content, []) => some content
  | _ => none

/-
  The number that the content of an integer denotes: not
  negative, and with no zero byte in front that is not needed.
-/
def natural? : List UInt8 → Option Nat
| [] => none
| [b] => if b < 0x80 then some b.toNat else none
| 0 :: b :: rest =>
    if b < 0x80 then none else some (ofBytes (b :: rest))
| b :: rest =>
    if b < 0x80 then some (ofBytes (b :: rest)) else none

end Der

end StorageRouting
