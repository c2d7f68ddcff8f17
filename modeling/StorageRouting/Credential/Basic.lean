import StorageRouting.Text.Blank

/-
  Credentials as they are configured, possibly encrypted, and
  the vault that keeps what was revealed.

  Key definitions include:
    * `Credential`
    * `Credential.payload?`
    * `Credential.diagnostic`
    * `Vault`
-/

------------------------------------------------------------
-- Credentials
------------------------------------------------------------

namespace StorageRouting

/-
  A credential: the text as configured, and the cell of the
  vault that keeps its plaintext.  Copies share the cell.
-/
structure Credential where
  raw : String
  cell : Option Nat
deriving DecidableEq, Repr, Inhabited

namespace Credential

/- A credential that has no cell yet. -/
def new (raw : String) : Credential :=
  ⟨raw, none⟩

/- A credential without its cell. -/
def detached (c : Credential) : Credential :=
  new c.raw

/-
  The payload of an encrypted text: what stands between
  "ENC(" and the closing parenthesis at its end, on one line.
-/
def payloadChars? (cs : List Char) : Option (List Char) := do
  let inner ← Text.dropStart? ['E', 'N', 'C', '('] cs
  let payload ← Text.dropEnd? [')'] inner
  if payload.contains '\n' then none else some payload

/- The payload of an encrypted string. -/
def payload? (s : String) : Option String :=
  (payloadChars? s.toList).map String.ofList

/- Whether nothing but blanks is configured. -/
def isEmpty (c : Credential) : Bool :=
  Text.isBlankText c.raw

/- Whether the text is marked as encrypted. -/
def isEncrypted (c : Credential) : Bool :=
  (payload? c.raw).isSome

/- The form shown in diagnostics, which gives nothing away. -/
def diagnostic (c : Credential) : String :=
  if c.isEmpty then "\"\""
  else if c.isEncrypted then "ENC(..)"
  else "***"

/- Credentials are the same when their texts are. -/
def same (a b : Credential) : Bool :=
  a.raw == b.raw

end Credential

end StorageRouting

------------------------------------------------------------
-- The Vault
------------------------------------------------------------

namespace StorageRouting

/-
  The plaintexts revealed so far, by cell.
-/
structure Vault where
  cells : List (Option String)
deriving DecidableEq, Repr, Inhabited

namespace Vault

/- A vault without cells. -/
def empty : Vault :=
  ⟨[]⟩

/- The plaintext in a cell. -/
def get?
    (v : Vault)
    (cell : Nat) : Option String :=
  (v.cells[cell]?).join

/- Keep a plaintext in a cell. -/
def put
    (v : Vault)
    (cell : Nat)
    (plain : String) : Vault :=
  ⟨v.cells.set cell (some plain)⟩

/- Give a credential a fresh cell. -/
def place
    (v : Vault)
    (c : Credential) : Credential × Vault :=
  (⟨c.raw, some v.cells.length⟩, ⟨v.cells ++ [none]⟩)

end Vault

end StorageRouting
