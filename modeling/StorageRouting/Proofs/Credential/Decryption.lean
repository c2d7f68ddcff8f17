import Mathlib.Data.List.Induction
import Mathlib.Data.Nat.ModEq
import Mathlib.FieldTheory.Finite.Basic
import Mathlib.NumberTheory.LucasLehmer
import StorageRouting.Credential.Resolver
import StorageRouting.Proofs.Bytes.Base64
import StorageRouting.Proofs.Text.Order

/-
  When an encrypted credential is read: its payload is a block of
  the size of the key, and the power of the block is the message
  behind its padding.

  Key definitions include:
    * `Rsa.Seals`
    * `Rsa.Holds`
    * `Rsa.sealedValue`

  Main statements:
    * `Der.toBytes_eq_iff`
    * `Rsa.powMod_eq`
    * `Rsa.stripPadding?_eq_some_iff`
    * `Rsa.decrypt?_eq_some_iff`
    * `Rsa.holds_sealedValue`
    * `Decryptor.rsa_opens_what_holds`
-/

------------------------------------------------------------
-- Numbers as Bytes
------------------------------------------------------------

namespace StorageRouting

namespace Der

theorem ofBytes_concat
    (bs : List UInt8)
    (b : UInt8) :
    ofBytes (bs ++ [b]) = ofBytes bs * 256 + b.toNat := by
  simp [ofBytes]

/- Bytes denote a number with no more digits than they are. -/
theorem ofBytes_lt (bs : List UInt8) :
    ofBytes bs < 256 ^ bs.length := by
  induction bs using List.reverseRecOn with
  | nil => decide
  | append_singleton bs b ih =>
      have hByte : b.toNat < 256 := b.toNat_lt
      rw [ofBytes_concat, List.length_append, List.length_singleton,
        Nat.pow_succ]
      omega

/- A zero in front changes nothing. -/
theorem ofBytes_zero_cons (bs : List UInt8) :
    ofBytes (0 :: bs) = ofBytes bs :=
  rfl

theorem length_toBytes (count n : Nat) :
    (toBytes count n).length = count := by
  induction count generalizing n with
  | zero => rfl
  | succ count ih => simp [toBytes, ih]

/- The bytes of what bytes denote are these bytes again. -/
theorem toBytes_ofBytes (bs : List UInt8) :
    toBytes bs.length (ofBytes bs) = bs := by
  induction bs using List.reverseRecOn with
  | nil => rfl
  | append_singleton bs b ih =>
      have hByte : b.toNat < 256 := b.toNat_lt
      have hHigh : (ofBytes bs * 256 + b.toNat) / 256 = ofBytes bs := by
        omega
      have hLow : (ofBytes bs * 256 + b.toNat) % 256 = b.toNat := by
        omega
      have hLast : b.toNat.toUInt8 = b :=
        (Base64.toUInt8_eq_iff hByte).mpr rfl
      rw [ofBytes_concat, List.length_append, List.length_singleton,
        toBytes, hHigh, hLow, ih, hLast]

/- Enough bytes of a number denote it. -/
theorem ofBytes_toBytes
    {count n : Nat}
    (h : n < 256 ^ count) : ofBytes (toBytes count n) = n := by
  induction count generalizing n with
  | zero =>
      have hZero : n = 0 := by simpa using h
      rw [hZero]
      rfl
  | succ count ih =>
      have hHigh : n / 256 < 256 ^ count := by
        apply Nat.div_lt_of_lt_mul
        rwa [Nat.mul_comm, ← Nat.pow_succ]
      have hLow : n % 256 < 256 := Nat.mod_lt n (by decide)
      have hLast : (n % 256).toUInt8.toNat = n % 256 :=
        ((Base64.toUInt8_eq_iff hLow).mp rfl).symm
      rw [toBytes, ofBytes_concat, ih hHigh, hLast]
      omega

/- A number is written in so many bytes in one way. -/
theorem toBytes_eq_iff
    {count n : Nat}
    (h : n < 256 ^ count)
    {bs : List UInt8} :
    toBytes count n = bs ↔ bs.length = count ∧ ofBytes bs = n := by
  constructor
  · rintro rfl
    exact ⟨length_toBytes count n, ofBytes_toBytes h⟩
  · rintro ⟨rfl, rfl⟩
    exact toBytes_ofBytes bs

end Der

end StorageRouting

------------------------------------------------------------
-- Texts
------------------------------------------------------------

namespace StorageRouting

/- Bytes denote a text if they are those of the text. -/
theorem Bytes.toString?_ofList_eq_some_iff
    {bs : List UInt8}
    {s : String} :
    (Bytes.ofList bs).toString? = some s ↔ bs = Text.utf8 s := by
  have hSame : bs = Text.utf8 s ↔ Bytes.ofList bs = s.toUTF8 := by
    rw [Text.utf8, Bytes.ofString, Bytes.ofList, ByteArray.ext_iff,
      ← Array.toList_inj]
  rw [hSame, Bytes.toString?, String.fromUTF8?]
  split
  case isTrue hValid =>
    constructor
    · intro h
      cases h
      rfl
    · intro h
      congr 1
      exact String.toByteArray_inj.mp h
  case isFalse hInvalid =>
    constructor
    · intro h
      cases h
    · intro h
      exact absurd (h ▸ s.isValidUTF8) hInvalid

/-
  The payload of a marked text is what stands between the marks,
  on one line.
-/
theorem Credential.payloadChars?_eq_some_iff
    {cs payload : List Char} :
    payloadChars? cs = some payload ↔
      cs = "ENC(".toList ++ payload ++ [')'] ∧ '\n' ∉ payload := by
  unfold payloadChars?
  simp only [Option.bind_eq_bind, Option.bind_eq_some_iff,
    Text.dropStart?_eq_some_iff, Text.dropEnd?_eq_some_iff]
  constructor
  · rintro ⟨inner, rfl, rest, rfl, h⟩
    split at h
    case isTrue => cases h
    case isFalse hLine =>
      cases h
      exact ⟨by simp, by simpa using hLine⟩
  · rintro ⟨rfl, hLine⟩
    refine ⟨payload ++ [')'], by simp, payload, rfl, ?_⟩
    rw [if_neg (by simpa using hLine)]

end StorageRouting

------------------------------------------------------------
-- Powers and Padding
------------------------------------------------------------

namespace StorageRouting

namespace Rsa

/- Squaring computes the power. -/
theorem powMod_eq (base exponent modulus : Nat) :
    powMod base exponent modulus = base ^ exponent % modulus := by
  induction base, exponent using powMod.induct modulus with
  | case1 base =>
      rw [powMod, dif_pos rfl, Nat.pow_zero]
  | case2 base exponent hPositive hOdd ih =>
      have hPower :
          base ^ exponent = base * (base * base) ^ (exponent / 2) := by
        rw [← Nat.pow_two, ← Nat.pow_mul, ← Nat.pow_succ']
        congr 1
        omega
      rw [powMod, dif_neg hPositive, if_pos hOdd, hPower, ih,
        ← Nat.pow_mod, Nat.mul_mod_mod]
  | case3 base exponent hPositive hEven ih =>
      have hPower :
          base ^ exponent = (base * base) ^ (exponent / 2) := by
        rw [← Nat.pow_two, ← Nat.pow_mul]
        congr 1
        omega
      rw [powMod, dif_neg hPositive, if_neg hEven, hPower, ih,
        ← Nat.pow_mod]

/- A block is a padded message if its padding can be dropped. -/
theorem stripPadding?_eq_some_iff
    {block message : List UInt8} :
    stripPadding? block = some message ↔
      ∃ filler, 8 ≤ filler ∧ pad filler message = block := by
  constructor
  · intro h
    unfold stripPadding? at h
    split at h
    case h_2 => cases h
    case h_1 rest =>
      dsimp only at h
      split at h
      case h_2 => cases h
      case h_1 after hRest =>
        split at h
        case isFalse => cases h
        case isTrue hLong =>
          cases h
          refine ⟨_, hLong, ?_⟩
          have hFiller :
              rest.takeWhile (· == 0xFF) =
                List.replicate (rest.takeWhile (· == 0xFF)).length
                  0xFF := by
            apply List.eq_replicate_of_mem
            intro b hb
            have hAll := List.all_eq_true.mp List.all_takeWhile b hb
            exact beq_iff_eq.mp hAll
          rw [pad, ← hFiller, ← hRest, List.cons_append,
            List.cons_append, List.takeWhile_append_dropWhile]
  · rintro ⟨filler, hLong, rfl⟩
    have hTake :
        (List.replicate filler 0xFF ++ 0 :: message).takeWhile
            (· == (0xFF : UInt8)) =
          List.replicate filler 0xFF := by
      rw [List.takeWhile_append_of_pos (by simp)]
      simp
    have hDrop :
        (List.replicate filler 0xFF ++ 0 :: message).dropWhile
            (· == (0xFF : UInt8)) =
          0 :: message := by
      rw [List.dropWhile_append_of_pos (by simp)]
      simp
    simp only [pad, List.cons_append, stripPadding?, hTake, hDrop,
      List.length_replicate, hLong, if_true]

theorem length_pad
    (filler : Nat)
    (message : List UInt8) :
    (pad filler message).length = message.length + filler + 3 := by
  simp [pad]
  omega

end Rsa

namespace PublicKey

variable {key : PublicKey}

/- The modulus has as many bytes as the key is long. -/
theorem pow_size_le
    (h : key.modulus ≠ 0) :
    256 ^ (key.size - 1) ≤ key.modulus ∧
      key.modulus < 256 ^ key.size := by
  have hPower : ∀ n : Nat, 256 ^ n = 2 ^ (8 * n) := by
    intro n
    rw [Nat.pow_mul]
  rw [size, if_neg h, hPower, hPower, Nat.add_sub_cancel]
  constructor
  · calc
      2 ^ (8 * (key.modulus.log2 / 8)) ≤ 2 ^ key.modulus.log2 :=
        Nat.pow_le_pow_right (by decide) (Nat.mul_div_le _ 8)
      _ ≤ key.modulus := Nat.log2_self_le h
  · calc
      key.modulus < 2 ^ (key.modulus.log2 + 1) := Nat.lt_log2_self
      _ ≤ 2 ^ (8 * (key.modulus.log2 / 8 + 1)) :=
        Nat.pow_le_pow_right (by decide) (by omega)

/- The modulus of a key that is read is not zero. -/
theorem modulus_ne_zero_of_parse?
    {text : String}
    (h : parse? text = some key) : key.modulus ≠ 0 := by
  rcases Option.bind_eq_some_iff.mp h with ⟨bs, -, hKey⟩
  have hUsable : key.isUsable = true := by
    unfold ofBytes? at hKey
    simp only [Option.bind_eq_bind, Option.bind_eq_some_iff] at hKey
    rcases hKey with ⟨outer, -, ⟨kind, rest⟩, -, hKey⟩
    split at hKey
    case isFalse => cases hKey
    case isTrue =>
      simp only [Option.bind_eq_some_iff] at hKey
      rcases hKey with ⟨bits, -, inner, -, numbers, -, ⟨n, e⟩, -, _, -,
        _, -, _, -, hKey⟩
      split at hKey
      case isFalse => cases hKey
      case isTrue hUsable =>
        cases hKey
        exact hUsable
  intro hZero
  simp [isUsable, hZero] at hUsable

end PublicKey

end StorageRouting

------------------------------------------------------------
-- Encrypted Values
------------------------------------------------------------

namespace StorageRouting

namespace Rsa

/-
  A block is one for a message: it has the size of the key, and
  its power, in as many bytes, is the padded message.
-/
def Seals
    (key : PublicKey)
    (block : List UInt8)
    (message : String) : Prop :=
  block.length = key.size ∧
  ∃ filler,
    8 ≤ filler ∧
    (pad filler (Text.utf8 message)).length = key.size ∧
    Der.ofBytes (pad filler (Text.utf8 message)) =
      Der.ofBytes block ^ key.exponent % key.modulus

/-
  A value holds a message: it is marked, its payload stands on
  one line, and, but for blanks around it, the payload is a
  block for the message in base64.
-/
def Holds
    (keyText : Option String)
    (value message : String) : Prop :=
  ∃ payload key block,
    value = "ENC(" ++ payload ++ ")" ∧
    '\n' ∉ payload.toList ∧
    keyText.bind PublicKey.parse? = some key ∧
    Base64.encode block = Text.trimChars payload.toList ∧
    Seals key block message

/- The block of a private exponent for a message. -/
def sealedBlock
    (key : PublicKey)
    (privateExponent : Nat)
    (message : String) : List UInt8 :=
  let text := Text.utf8 message
  let padded := pad (key.size - 3 - text.length) text
  Der.toBytes key.size
    (Der.ofBytes padded ^ privateExponent % key.modulus)

/- A message as it is encrypted with a private exponent. -/
def sealedValue
    (key : PublicKey)
    (privateExponent : Nat)
    (message : String) : String :=
  let block := sealedBlock key privateExponent message
  "ENC(" ++ String.ofList (Base64.encode block) ++ ")"

/- A key opens exactly the blocks for messages. -/
theorem openBlock_eq_pad_iff
    {key : PublicKey}
    (hKey : key.modulus ≠ 0)
    {block message : List UInt8}
    {filler : Nat} :
    openBlock key block = pad filler message ↔
      (pad filler message).length = key.size ∧
        Der.ofBytes (pad filler message) =
          Der.ofBytes block ^ key.exponent % key.modulus := by
  have hBound :
      Der.ofBytes block ^ key.exponent % key.modulus <
        256 ^ key.size :=
    Nat.lt_trans (Nat.mod_lt _ (Nat.pos_of_ne_zero hKey))
      (PublicKey.pow_size_le hKey).2
  rw [openBlock, powMod_eq, Der.toBytes_eq_iff hBound]

/- The text of a payload is the message of its block. -/
theorem decryptPayload?_eq_some_iff
    {key : PublicKey}
    (hKey : key.modulus ≠ 0)
    {payload : List Char}
    {message : String} :
    decryptPayload? key payload = some message ↔
      ∃ block,
        Base64.encode block = Text.trimChars payload ∧
        Seals key block message := by
  unfold decryptPayload?
  simp only [Option.bind_eq_bind, Option.bind_eq_some_iff,
    Base64.decode?_eq_some_iff]
  refine exists_congr (fun block => and_congr_right (fun _ => ?_))
  unfold Seals
  split
  case isFalse hSize =>
    constructor
    · intro h
      cases h
    · intro h
      exact absurd h.1 hSize
  case isTrue hSize =>
    simp only [Option.bind_eq_some_iff, stripPadding?_eq_some_iff,
      Bytes.toString?_ofList_eq_some_iff]
    constructor
    · rintro ⟨text, ⟨filler, hLong, hBlock⟩, rfl⟩
      exact ⟨hSize, filler, hLong,
        (openBlock_eq_pad_iff hKey).mp hBlock.symm⟩
    · rintro ⟨_, filler, hLong, hBlock⟩
      exact ⟨_, ⟨filler, hLong,
        ((openBlock_eq_pad_iff hKey).mpr hBlock).symm⟩, rfl⟩

/- A value is decrypted exactly to the message that it holds. -/
theorem decrypt?_eq_some_iff
    {keyText : Option String}
    {value message : String} :
    decrypt? keyText value = some message ↔
      Holds keyText value message := by
  unfold decrypt?
  simp only [Option.bind_eq_bind, Option.bind_eq_some_iff,
    Credential.payloadChars?_eq_some_iff]
  constructor
  · rintro ⟨payload, ⟨hValue, hLine⟩, key, ⟨text, rfl, hParse⟩,
      hPayload⟩
    have hKey := PublicKey.modulus_ne_zero_of_parse? hParse
    rcases (decryptPayload?_eq_some_iff hKey).mp hPayload with
      ⟨block, hBlock, hSeals⟩
    refine ⟨String.ofList payload, key, block, ?_, ?_, hParse, ?_,
      hSeals⟩
    · rw [← String.toList_inj, hValue]
      simp
    · rwa [String.toList_ofList]
    · rwa [String.toList_ofList]
  · rintro ⟨payload, key, block, rfl, hLine, hParse, hBlock, hSeals⟩
    rcases Option.bind_eq_some_iff.mp hParse with
      ⟨text, hText, hKeyOf⟩
    have hKey := PublicKey.modulus_ne_zero_of_parse? hKeyOf
    refine ⟨payload.toList, ⟨by simp, hLine⟩, key,
      ⟨text, hText, hKeyOf⟩, ?_⟩
    exact (decryptPayload?_eq_some_iff hKey).mpr
      ⟨block, hBlock, hSeals⟩

/- A padded message is a number below the modulus. -/
theorem ofBytes_pad_lt
    {key : PublicKey}
    (hKey : key.modulus ≠ 0)
    {filler : Nat}
    {message : List UInt8}
    (hLength : (pad filler message).length = key.size) :
    Der.ofBytes (pad filler message) < key.modulus := by
  rw [pad, List.cons_append, List.length_cons] at hLength
  rw [pad, List.cons_append, Der.ofBytes_zero_cons]
  calc
    _ < 256 ^ (key.size - 1) := by
      rw [← hLength, Nat.add_sub_cancel]
      exact Der.ofBytes_lt _
    _ ≤ key.modulus := (PublicKey.pow_size_le hKey).1

/-
  What a private exponent makes of a message that fits is a
  block for it, when the exponents undo each other.
-/
theorem seals_sealedBlock
    {key : PublicKey}
    (hKey : key.modulus ≠ 0)
    {privateExponent : Nat}
    (hInverse :
      ∀ x,
        Nat.ModEq key.modulus
          (x ^ (privateExponent * key.exponent)) x)
    {message : String}
    (hFits : (Text.utf8 message).length + 11 ≤ key.size) :
    Seals key (sealedBlock key privateExponent message)
      message := by
  let text := Text.utf8 message
  let filler := key.size - 3 - text.length
  have hLong : 8 ≤ filler := by
    dsimp only [filler, text]
    omega
  have hLength : (pad filler text).length = key.size := by
    rw [length_pad]
    dsimp only [filler, text]
    omega
  have hPower :
      Der.ofBytes (pad filler text) ^ privateExponent %
          key.modulus <
        256 ^ key.size :=
    Nat.lt_trans (Nat.mod_lt _ (Nat.pos_of_ne_zero hKey))
      (PublicKey.pow_size_le hKey).2
  refine ⟨Der.length_toBytes _ _, filler, hLong, hLength, ?_⟩
  have hBlock :
      Der.ofBytes (sealedBlock key privateExponent message) =
        Der.ofBytes (pad filler text) ^ privateExponent %
          key.modulus :=
    Der.ofBytes_toBytes hPower
  calc
    Der.ofBytes (pad filler text)
        = Der.ofBytes (pad filler text) % key.modulus :=
      (Nat.mod_eq_of_lt (ofBytes_pad_lt hKey hLength)).symm
    _ = Der.ofBytes (pad filler text) ^
          (privateExponent * key.exponent) % key.modulus :=
      (hInverse _).symm
    _ = Der.ofBytes (sealedBlock key privateExponent message) ^
          key.exponent % key.modulus := by
      rw [hBlock, Nat.pow_mul, ← Nat.pow_mod]

/- A message that fits is held by its encrypted form. -/
theorem holds_sealedValue
    {keyText : Option String}
    {key : PublicKey}
    (hParse : keyText.bind PublicKey.parse? = some key)
    {privateExponent : Nat}
    (hInverse :
      ∀ x,
        Nat.ModEq key.modulus
          (x ^ (privateExponent * key.exponent)) x)
    {message : String}
    (hFits : (Text.utf8 message).length + 11 ≤ key.size) :
    Holds keyText (sealedValue key privateExponent message)
      message := by
  rcases Option.bind_eq_some_iff.mp hParse with ⟨_, _, hKeyOf⟩
  have hKey := PublicKey.modulus_ne_zero_of_parse? hKeyOf
  refine ⟨_, key, sealedBlock key privateExponent message, rfl, ?_,
    hParse, ?_, seals_sealedBlock hKey hInverse hFits⟩
  · rw [String.toList_ofList]
    intro hLine
    have hBlank := Base64.isBlank_of_mem_encode hLine
    revert hBlank
    decide
  · rw [String.toList_ofList, Base64.trimChars_encode]

end Rsa

end StorageRouting

------------------------------------------------------------
-- The Decryptor
------------------------------------------------------------

namespace StorageRouting

namespace Decryptor

/-
  The decryptor answers with the message that a value holds for
  the backend's own key or else the given one, and with the value
  itself if it holds none.  So it undoes every encryption of a
  message that fits.
-/
theorem rsa_opens_what_holds
    {σ : Type}
    (publicKey : Option String)
    (config : BackendConfig)
    (value : String)
    (s : σ) :
    let keyText := config.publicKey.or publicKey
    (∀ message, Rsa.Holds keyText value message →
      rsa publicKey config value s = (message, s)) ∧
    ((∀ message, ¬ Rsa.Holds keyText value message) →
      rsa publicKey config value s = (value, s)) ∧
    ∀ key privateExponent message,
      keyText.bind PublicKey.parse? = some key →
      (∀ x,
        Nat.ModEq key.modulus
          (x ^ (privateExponent * key.exponent)) x) →
      (Text.utf8 message).length + 11 ≤ key.size →
      value = Rsa.sealedValue key privateExponent message →
      rsa publicKey config value s = (message, s) := by
  intro keyText
  have hOpens :
      ∀ message, Rsa.Holds keyText value message →
        rsa publicKey config value s = (message, s) := by
    intro message hHolds
    change (Rsa.decrypt keyText value, s) = _
    rw [Rsa.decrypt, Rsa.decrypt?_eq_some_iff.mpr hHolds,
      Option.getD_some]
  refine ⟨hOpens, ?_, ?_⟩
  · intro hNone
    change (Rsa.decrypt keyText value, s) = _
    have hFails : Rsa.decrypt? keyText value = none := by
      apply Option.eq_none_iff_forall_ne_some.mpr
      intro message hSome
      exact hNone message (Rsa.decrypt?_eq_some_iff.mp hSome)
    rw [Rsa.decrypt, hFails, Option.getD_none]
  · rintro key privateExponent message hParse hInverse hFits rfl
    exact hOpens message
      (Rsa.holds_sealedValue hParse hInverse hFits)

end Decryptor

namespace Rsa

/- A key whose modulus is a prime of twelve bytes. -/
def primeKey : PublicKey :=
  ⟨2 ^ 89 - 1, 7⟩

/- The written form of the key. -/
def primeKeyText : String :=
  "MCUwDQYJKoZIhvcNAQEBBQADFAAwEQIMAf//////////////AgEH"

/- The private exponent that belongs to the key. -/
def primeKeyExponent : Nat :=
  265272865561152916049812333

/- The exponents of the key undo each other. -/
theorem primeKey_inverse (x : Nat) :
    Nat.ModEq primeKey.modulus
      (x ^ (primeKeyExponent * primeKey.exponent)) x := by
  have hPrime : Fact (Nat.Prime (2 ^ 89 - 1)) :=
    ⟨lucas_lehmer_sufficiency 89 (by decide) (by norm_num)⟩
  have hExponent :
      primeKeyExponent * primeKey.exponent =
        1 + (2 ^ 89 - 1 - 1) * 3 := by
    norm_num [primeKeyExponent, primeKey]
  change Nat.ModEq (2 ^ 89 - 1) _ x
  rw [← ZMod.natCast_eq_natCast_iff, Nat.cast_pow, hExponent,
    pow_add, pow_one, pow_mul]
  by_cases hZero : (x : ZMod (2 ^ 89 - 1)) = 0
  · rw [hZero, zero_mul]
  · rw [ZMod.pow_card_sub_one_eq_one hZero, one_pow, mul_one]

end Rsa

namespace Decryptor

/- A backend's own key undoes the encryption of a letter. -/
theorem rsa_opens_letter :
    let config :=
      { BackendConfig.blank with
        publicKey := some Rsa.primeKeyText }
    let value :=
      Rsa.sealedValue Rsa.primeKey Rsa.primeKeyExponent "k"
    rsa none config value () = ("k", ()) := by
  intro config value
  have hParse :
      PublicKey.parse? Rsa.primeKeyText = some Rsa.primeKey := by
    decide +kernel
  have hKey :
      (config.publicKey.or none).bind PublicKey.parse? =
        some Rsa.primeKey := by
    rw [show config.publicKey.or none = some Rsa.primeKeyText from rfl,
      Option.bind_some, hParse]
  have hFits :
      (Text.utf8 "k").length + 11 ≤ Rsa.primeKey.size := by
    decide +kernel
  exact
    (rsa_opens_what_holds none config value ()).2.2 Rsa.primeKey
      Rsa.primeKeyExponent "k" hKey Rsa.primeKey_inverse hFits rfl

end Decryptor

end StorageRouting
