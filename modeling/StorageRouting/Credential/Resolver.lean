import StorageRouting.Backend.Store
import StorageRouting.Credential.Rsa
import StorageRouting.Text.LetterCase

/-
  Decryptors of credentials, and the choice among them.

  Key definitions include:
    * `Decryptor`
    * `CredentialResolver`
    * `CredentialResolver.reveal`
    * `CredentialResolver.accessKey`
    * `CredentialResolver.secretKey`
-/

------------------------------------------------------------
-- Decryptors
------------------------------------------------------------

namespace StorageRouting

/-
  A decryptor makes plaintext of a credential of a backend; it
  may have a state.
-/
abbrev Decryptor (σ : Type) :=
  BackendConfig → String → StateM σ String

namespace Decryptor

variable {σ : Type}

/- Takes every value as it is. -/
def plain : Decryptor σ :=
  fun _ value => pure value

/-
  Decrypts with the public key of the backend or, if it has
  none, the given one.
-/
def rsa (publicKey : Option String) : Decryptor σ :=
  fun config value =>
    pure (Rsa.decrypt (config.publicKey.or publicKey) value)

/- Folds every value to upper case. -/
def upper : Decryptor σ :=
  fun _ value => pure (Text.upper value)

/- Tells how often it was called, for which backend and value. -/
def counting (calls : Slot σ Nat) : Decryptor σ :=
  fun config value s =>
    let n := calls.get s + 1
    (toString n ++ ":" ++ config.name ++ ":" ++ value,
      calls.set n s)

end Decryptor

end StorageRouting

------------------------------------------------------------
-- Resolvers
------------------------------------------------------------

namespace StorageRouting

/-
  Named decryptors, the one for all other backends, and the
  place of the vault.
-/
structure CredentialResolver (σ : Type) where
  default : Decryptor σ
  named : Dictionary (Decryptor σ)
  vault : Slot σ Vault

namespace CredentialResolver

variable {σ : Type}

/- A resolver without named decryptors. -/
def rsa
    (publicKey : Option String)
    (vault : Slot σ Vault) : CredentialResolver σ :=
  { default := Decryptor.rsa publicKey
    named := Dictionary.empty, vault }

/-
  The decryptor that a backend names; the default one when it
  names none, or one that is not known.
-/
def decryptorFor
    (r : CredentialResolver σ)
    (config : BackendConfig) : Decryptor σ :=
  match config.decryptor.bind r.named.get? with
  | some d => d
  | none => r.default

/-
  The plaintext of a credential.  It is computed once and kept
  in the credential's cell of the vault.
-/
def reveal
    (r : CredentialResolver σ)
    (config : BackendConfig)
    (c : Credential) : StateM σ String :=
  fun s =>
    match c.cell with
    | none => r.decryptorFor config config c.raw s
    | some cell =>
        match (r.vault.get s).get? cell with
        | some plain => (plain, s)
        | none =>
            let (plain, s) := r.decryptorFor config config c.raw s
            (plain, r.vault.set ((r.vault.get s).put cell plain) s)

/- The plaintext access key of a backend. -/
def accessKey
    (r : CredentialResolver σ)
    (config : BackendConfig) : StateM σ String :=
  r.reveal config config.accessKey

/- The plaintext secret key of a backend. -/
def secretKey
    (r : CredentialResolver σ)
    (config : BackendConfig) : StateM σ String :=
  r.reveal config config.secretKey

/- The form shown in diagnostics. -/
def diagnostic (r : CredentialResolver σ) : String :=
  "CredentialResolver \x7b named: " ++
    Text.quotedList r.named.keys ++ ", .. \x7d"

end CredentialResolver

end StorageRouting

------------------------------------------------------------
-- Cells
------------------------------------------------------------

namespace StorageRouting

namespace BackendConfig

/- Give both credentials of a backend a cell of their own. -/
def place
    (c : BackendConfig)
    (v : Vault) : BackendConfig × Vault :=
  let (accessKey, v) := v.place c.accessKey
  let (secretKey, v) := v.place c.secretKey
  ({ c with accessKey, secretKey }, v)

end BackendConfig

end StorageRouting
