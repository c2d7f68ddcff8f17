import StorageRouting.Bytes.Base64
import StorageRouting.Bytes.Der
import StorageRouting.Credential.Basic
import StorageRouting.Number.Width

/-
  Credentials that were encrypted with a private key, and read
  with the public one.

  Key definitions include:
    * `PublicKey`
    * `PublicKey.parse?`
    * `Rsa.powMod`
    * `Rsa.stripPadding?`
    * `Rsa.decrypt?`
-/

------------------------------------------------------------
-- Public Keys
------------------------------------------------------------

namespace StorageRouting

/- A modulus and an exponent. -/
structure PublicKey where
  modulus : Nat
  exponent : Nat
deriving DecidableEq, Repr

namespace PublicKey

/- The number of bytes of the modulus. -/
def size (k : PublicKey) : Nat :=
  if k.modulus = 0 then 0 else k.modulus.log2 / 8 + 1

/-
  The keys that are used: a modulus of at most 4096 bits, both
  numbers odd, and the exponent below the modulus and of at
  most 33 bits.
-/
def isUsable (k : PublicKey) : Bool :=
  Width.isUnsigned 4096 k.modulus && k.exponent < k.modulus &&
    k.modulus % 2 == 1 && k.exponent % 2 == 1 &&
    2 ≤ k.exponent && Width.isUnsigned 33 k.exponent

/- The identifier of RSA keys, as a whole element. -/
def algorithm : List UInt8 :=
  [0x06, 0x09, 0x2A, 0x86, 0x48, 0x86, 0xF7, 0x0D, 0x01, 0x01,
    0x01, 0x05, 0x00]

/- The content of a string of bits that is made of whole bytes. -/
def wholeBytes? : List UInt8 → Option (List UInt8)
| 0 :: bs => some bs
| _ => none

/- The key that bytes denote. -/
def ofBytes? (bs : List UInt8) : Option PublicKey := do
  let outer ← Der.only? 0x30 bs
  let (kind, rest) ← Der.element? 0x30 outer
  if kind = algorithm then
    let bits ← Der.only? 0x03 rest
    let inner ← wholeBytes? bits
    let numbers ← Der.only? 0x30 inner
    let (n, rest) ← Der.element? 0x02 numbers
    let e ← Der.only? 0x02 rest
    let modulus ← Der.natural? n
    let exponent ← Der.natural? e
    let key : PublicKey := ⟨modulus, exponent⟩
    if key.isUsable then return key else none
  else none

/- The key of a text in base64, with blanks around it. -/
def parse? (text : String) : Option PublicKey :=
  (Base64.decode? (Text.trimChars text.toList)).bind ofBytes?

end PublicKey

end StorageRouting

------------------------------------------------------------
-- Decryption
------------------------------------------------------------

namespace StorageRouting

namespace Rsa

/- A power to a modulus, by squaring. -/
def powMod
    (base exponent modulus : Nat) : Nat :=
  if h : exponent = 0 then 1 % modulus
  else
    let half :=
      powMod (base * base % modulus) (exponent / 2) modulus
    if exponent % 2 = 1 then base * half % modulus else half
termination_by exponent
decreasing_by exact Nat.div_lt_self (Nat.pos_of_ne_zero h) (by decide)

/-
  The message in a padded block: the bytes 0 and 1, at least
  eight bytes of 255, a zero, and the message.
-/
def stripPadding? : List UInt8 → Option (List UInt8)
| 0 :: 1 :: rest =>
    let filler := rest.takeWhile (· == 0xFF)
    match rest.dropWhile (· == 0xFF) with
    | 0 :: message =>
        if 8 ≤ filler.length then some message else none
    | _ => none
| _ => none

/- Put a message into a padded block. -/
def pad
    (filler : Nat)
    (message : List UInt8) : List UInt8 :=
  0 :: 1 :: List.replicate filler 0xFF ++ 0 :: message

/- The block that a key makes of an encrypted one. -/
def openBlock
    (key : PublicKey)
    (block : List UInt8) : List UInt8 :=
  Der.toBytes key.size
    (powMod (Der.ofBytes block) key.exponent key.modulus)

/- The text in the payload of a credential. -/
def decryptPayload?
    (key : PublicKey)
    (payload : List Char) : Option String := do
  let block ← Base64.decode? (Text.trimChars payload)
  if block.length = key.size then
    let message ← stripPadding? (openBlock key block)
    Bytes.toString? (Bytes.ofList message)
  else none

/- The plaintext of an encrypted credential. -/
def decrypt?
    (keyText : Option String)
    (value : String) : Option String := do
  let payload ← Credential.payloadChars? value.toList
  let key ← keyText.bind PublicKey.parse?
  decryptPayload? key payload

/-
  The plaintext of a credential; what cannot be decrypted is
  taken as it is.
-/
def decrypt
    (keyText : Option String)
    (value : String) : String :=
  (decrypt? keyText value).getD value

end Rsa

end StorageRouting
