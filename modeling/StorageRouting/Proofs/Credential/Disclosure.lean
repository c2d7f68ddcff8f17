import StorageRouting.Config.Form
import StorageRouting.Credential.Resolver
import StorageRouting.Document.Json
import StorageRouting.Document.Toml.Printer

/-
  Credentials are decrypted once for all copies of them, and no
  form of a configuration tells that they were.

  Key definitions include:
    * `KeyField`
    * `DecryptorSet`
    * `Disclosure.Follows`
    * `Ledger`
    * `Ledger.Discreet`

  Main statements:
    * `Ledger.Sound.run`
    * `Ledger.run_discreet`
-/

------------------------------------------------------------
-- Fields and Kinds
------------------------------------------------------------

namespace StorageRouting

/- The fields of a configuration that hold credentials. -/
inductive KeyField where
| access : KeyField
| secret : KeyField
deriving DecidableEq, Repr

/- What a diagnostic form tells of a credential. -/
inductive CredentialKind where
| blank : CredentialKind
| marked : CredentialKind
| other : CredentialKind
deriving DecidableEq, Repr

namespace Credential

/- The kind of a credential. -/
def kind (c : Credential) : CredentialKind :=
  if c.isEmpty then .blank
  else if c.isEncrypted then .marked
  else .other

/- The diagnostic form tells the kind and nothing else. -/
theorem diagnostic_eq (c : Credential) :
    c.diagnostic =
      match c.kind with
      | .blank => "\"\""
      | .marked => "ENC(..)"
      | .other => "***" := by
  unfold diagnostic kind
  by_cases hBlank : c.isEmpty = true
  · rw [if_pos hBlank, if_pos hBlank]
  · rw [if_neg hBlank, if_neg hBlank]
    by_cases hMarked : c.isEncrypted = true
    · rw [if_pos hMarked, if_pos hMarked]
    · rw [if_neg hMarked, if_neg hMarked]

theorem diagnostic_congr
    {a b : Credential}
    (h : a.kind = b.kind) : a.diagnostic = b.diagnostic := by
  rw [diagnostic_eq, diagnostic_eq, h]

end Credential

namespace BackendConfig

/- The credential in a field. -/
def key (c : BackendConfig) : KeyField → Credential
| .access => c.accessKey
| .secret => c.secretKey

/- A configuration with another credential in a field. -/
def withKey
    (c : BackendConfig)
    (field : KeyField)
    (k : Credential) : BackendConfig :=
  match field with
  | .access => { c with accessKey := k }
  | .secret => { c with secretKey := k }

/- A configuration without its credentials. -/
def keyless (c : BackendConfig) : BackendConfig :=
  (c.withKey .access (Credential.new "")).withKey .secret
    (Credential.new "")

/- Both credentials have a cell in a vault. -/
def Placed
    (v : Vault)
    (c : BackendConfig) : Prop :=
  ∀ field, ∃ cell ∈ (c.key field).cell, cell < v.cells.length

/-
  The forms of a configuration: the texts of its credentials, the
  diagnostic form, and the documents.
-/
def forms (c : BackendConfig) : List String :=
  [c.accessKey.raw, c.secretKey.raw, c.diagnostic,
    Json.compact c.toValue, Toml.render c.fields]

/- All forms are those of a configuration that has no cells. -/
theorem forms_detached (c : BackendConfig) :
    c.detached.forms = c.forms :=
  rfl

theorem same_iff (a b : BackendConfig) :
    a.same b = true ↔ a.detached = b.detached := by
  rw [same, beq_iff_eq]

/- The diagnostic form tells only the kinds of credentials. -/
theorem diagnostic_congr
    {a b : BackendConfig}
    (hRest : a.keyless = b.keyless)
    (hKinds : ∀ field, (a.key field).kind = (b.key field).kind) :
    a.diagnostic = b.diagnostic := by
  have hAccess : a.accessKey.diagnostic = b.accessKey.diagnostic :=
    Credential.diagnostic_congr (hKinds .access)
  have hSecret : a.secretKey.diagnostic = b.secretKey.diagnostic :=
    Credential.diagnostic_congr (hKinds .secret)
  simp only [keyless, withKey, mk.injEq] at hRest
  rcases hRest with
    ⟨hName, hKind, hEndpoint, hRegion, -, -, hStyle, hBucket,
      hCreate, hAdapter, hDecryptor, hKey⟩
  unfold diagnostic
  rw [hAccess, hSecret, hName, hKind, hEndpoint, hRegion, hStyle,
    hBucket, hCreate, hAdapter, hDecryptor, hKey]

@[simp] theorem key_withKey_self
    (c : BackendConfig)
    (field : KeyField)
    (k : Credential) : (c.withKey field k).key field = k := by
  cases field <;> rfl

theorem key_withKey_of_ne
    (c : BackendConfig)
    {field other : KeyField}
    (h : other ≠ field)
    (k : Credential) :
    (c.withKey field k).key other = c.key other := by
  cases field <;> cases other <;> first | rfl | exact absurd rfl h

end BackendConfig

end StorageRouting

------------------------------------------------------------
-- Decryptors Under Watch
------------------------------------------------------------

namespace StorageRouting

/- Decryptors by name, over a state of their own. -/
structure DecryptorSet (τ : Type) where
  default : Decryptor τ
  named : Dictionary (Decryptor τ)

/-
  Where decryptors work: the vault, their own state, and the
  calls they had so far.
-/
structure Desk (τ : Type) where
  vault : Vault
  own : τ
  calls : List (BackendConfig × String)

variable {τ : Type}

/- A decryptor that notes each of its calls. -/
def Decryptor.noted (d : Decryptor τ) : Decryptor (Desk τ) :=
  fun config raw desk =>
    let (plain, own) := d config raw desk.own
    (plain,
      { desk with own, calls := desk.calls ++ [(config, raw)] })

namespace DecryptorSet

/-
  The decryptor that a configuration names; the default one when
  it names none, or one that is not known.
-/
def choose
    (d : DecryptorSet τ)
    (config : BackendConfig) : Decryptor τ :=
  (config.decryptor.bind d.named.get?).getD d.default

/- The resolver that works with a set of decryptors. -/
def resolver (d : DecryptorSet τ) : CredentialResolver (Desk τ) where
  default := d.default.noted
  named := d.named.mapEntries (fun _ e => e.noted)
  vault :=
    { get := fun desk => desk.vault
      set := fun v desk => { desk with vault := v } }

/- The resolver chooses as the set does. -/
theorem decryptorFor_resolver
    (d : DecryptorSet τ)
    (config : BackendConfig) :
    d.resolver.decryptorFor config = (d.choose config).noted := by
  have hNamed :
      ∀ name,
        d.resolver.named.get? name =
          (d.named.get? name).map Decryptor.noted := by
    intro name
    exact Dictionary.get?_mapEntries d.named _ name
  unfold CredentialResolver.decryptorFor choose
  cases config.decryptor with
  | none => rfl
  | some name =>
      rw [Option.bind_some, Option.bind_some, hNamed]
      cases d.named.get? name <;> rfl

end DecryptorSet

/- The plaintext of the credential in a field. -/
def KeyField.reveal
    {σ : Type}
    (field : KeyField)
    (r : CredentialResolver σ)
    (config : BackendConfig) : StateM σ String :=
  match field with
  | .access => r.accessKey config
  | .secret => r.secretKey config

theorem KeyField.reveal_eq
    {σ : Type}
    (field : KeyField)
    (r : CredentialResolver σ)
    (config : BackendConfig) :
    field.reveal r config = r.reveal config (config.key field) := by
  cases field <;> rfl

end StorageRouting

------------------------------------------------------------
-- Disclosures
------------------------------------------------------------

namespace StorageRouting

/- A plaintext that was asked for, and what was answered. -/
structure Disclosure (τ : Type) where
  config : BackendConfig
  field : KeyField
  decryptors : DecryptorSet τ
  before : Desk τ
  answer : String
  after : Desk τ

namespace Disclosure

variable {τ : Type}

/- The credential that was asked for. -/
def key (d : Disclosure τ) : Credential :=
  d.config.key d.field

/-
  The plaintext in a cell after some disclosures: what was there,
  or else the first answer.
-/
def known?
    (v : Vault)
    (ds : List (Disclosure τ))
    (cell : Option Nat) : Option String :=
  (cell.bind v.get?).or
    ((ds.find? (fun d => d.key.cell = cell)).map answer)

/-
  A disclosure as it should be after earlier ones.  What is known
  is answered without a call.  Otherwise the decryptor that the
  configuration chooses is called, and once.
-/
def Follows
    (v : Vault)
    (earlier : List (Disclosure τ))
    (d : Disclosure τ) : Prop :=
  match known? v earlier d.key.cell with
  | some plain =>
      d.answer = plain ∧ d.after.calls = d.before.calls ∧
        d.after.own = d.before.own
  | none =>
      (d.answer, d.after.own) =
          d.decryptors.choose d.config d.config d.key.raw
            d.before.own ∧
        d.after.calls = d.before.calls ++ [(d.config, d.key.raw)]

/- One more disclosure counts only where nothing is known. -/
theorem known?_concat
    (v : Vault)
    (ds : List (Disclosure τ))
    (d : Disclosure τ)
    (cell : Option Nat) :
    known? v (ds ++ [d]) cell =
      (known? v ds cell).or
        (if d.key.cell = cell then some d.answer else none) := by
  unfold known?
  rw [List.find?_append, Option.map_or, Option.or_assoc]
  congr 2
  by_cases h : d.key.cell = cell
  · simp [h]
  · simp [h]

end Disclosure

end StorageRouting

------------------------------------------------------------
-- Ledgers
------------------------------------------------------------

namespace StorageRouting

/-
  All copies of a configuration, the place where decryptors work
  on them, and what was disclosed.
-/
structure Ledger (τ : Type) where
  copies : List BackendConfig
  desk : Desk τ
  log : List (Disclosure τ)

/- What can happen to the copies of a configuration. -/
inductive LedgerStep (τ : Type) where
| reveal
    (i : Nat)
    (field : KeyField)
    (decryptors : DecryptorSet τ) : LedgerStep τ
| copy (i : Nat) : LedgerStep τ
| configure
    (i : Nat)
    (decryptor publicKey : Option String) : LedgerStep τ
| replace
    (i : Nat)
    (field : KeyField)
    (raw : String) : LedgerStep τ

namespace LedgerStep

variable {τ : Type}

/- Whether a step asks for a plaintext. -/
def isReveal : LedgerStep τ → Bool
| .reveal _ _ _ => true
| _ => false

/- Whether a step replaces the credential in a field of a copy. -/
def replaces
    (i : Nat)
    (field : KeyField) : LedgerStep τ → Prop
| .replace j other _ => j = i ∧ other = field
| _ => False

end LedgerStep

namespace Ledger

variable {τ : Type}

/- One configuration, of which nothing was disclosed so far. -/
def start
    (v : Vault)
    (own : τ)
    (c : BackendConfig) : Ledger τ :=
  ⟨[c], ⟨v, own, []⟩, []⟩

/- Ask for the plaintext of a credential of a configuration. -/
def disclose
    (s : Ledger τ)
    (config : BackendConfig)
    (field : KeyField)
    (decryptors : DecryptorSet τ) : Disclosure τ :=
  let (answer, after) :=
    field.reveal decryptors.resolver config s.desk
  { config, field, decryptors, before := s.desk, answer, after }

/- One step; nothing happens to a copy that is not there. -/
def step (s : Ledger τ) : LedgerStep τ → Ledger τ
| .reveal i field decryptors =>
    match s.copies[i]? with
    | none => s
    | some c =>
        let d := s.disclose c field decryptors
        { s with desk := d.after, log := s.log ++ [d] }
| .copy i => { s with copies := s.copies ++ s.copies[i]?.toList }
| .configure i decryptor publicKey =>
    { s with
      copies :=
        s.copies.modify i
          (fun c => { c with decryptor, publicKey }) }
| .replace i field raw =>
    let (k, vault) := s.desk.vault.place (Credential.new raw)
    { s with
      copies := s.copies.modify i (fun c => c.withKey field k)
      desk := { s.desk with vault } }

/- Steps one after another. -/
def run
    (s : Ledger τ)
    (steps : List (LedgerStep τ)) : Ledger τ :=
  steps.foldl step s

end Ledger

end StorageRouting

------------------------------------------------------------
-- Cells
------------------------------------------------------------

namespace StorageRouting

namespace Vault

@[simp] theorem length_put
    (v : Vault)
    (cell : Nat)
    (plain : String) :
    (v.put cell plain).cells.length = v.cells.length :=
  List.length_set

/- What is put in a cell that is there is found there. -/
theorem get?_put
    (v : Vault)
    {cell : Nat}
    (h : cell < v.cells.length)
    (plain : String)
    (other : Nat) :
    (v.put cell plain).get? other =
      if cell = other then some plain else v.get? other := by
  unfold get? put
  rw [List.getElem?_set]
  by_cases hSame : cell = other
  · subst hSame
    simp [h]
  · simp [hSame]

/- A fresh cell is empty, like a cell that is not there. -/
@[simp] theorem get?_place
    (v : Vault)
    (c : Credential)
    (cell : Nat) : (v.place c).2.get? cell = v.get? cell := by
  unfold get? place
  rw [List.getElem?_append]
  by_cases h : cell < v.cells.length
  · rw [if_pos h]
  · rw [if_neg h, List.getElem?_eq_none (Nat.le_of_not_lt h)]
    rw [List.getElem?_singleton]
    split <;> rfl

theorem get?_length (v : Vault) : v.get? v.cells.length = none := by
  unfold get?
  rw [List.getElem?_eq_none (Nat.le_refl _)]
  rfl

end Vault

/- A configuration keeps its cells in a vault that grows. -/
theorem BackendConfig.Placed.mono
    {v w : Vault}
    {c : BackendConfig}
    (h : c.Placed v)
    (hGrows : v.cells.length ≤ w.cells.length) : c.Placed w := by
  intro field
  rcases h field with ⟨cell, hCell, hLess⟩
  exact ⟨cell, hCell, Nat.lt_of_lt_of_le hLess hGrows⟩

namespace Ledger

variable {τ : Type}

/-
  What asking for a plaintext does: the vault has it, or the
  chosen decryptor is called and the vault keeps the answer.
-/
theorem disclose_cases
    (s : Ledger τ)
    (config : BackendConfig)
    (field : KeyField)
    (decryptors : DecryptorSet τ)
    {cell : Nat}
    (hCell : (config.key field).cell = some cell) :
    (∃ plain,
      s.desk.vault.get? cell = some plain ∧
      s.disclose config field decryptors =
        ⟨config, field, decryptors, s.desk, plain, s.desk⟩) ∨
    (∃ plain own,
      s.desk.vault.get? cell = none ∧
      decryptors.choose config config (config.key field).raw
          s.desk.own =
        (plain, own) ∧
      s.disclose config field decryptors =
        ⟨config, field, decryptors, s.desk, plain,
          ⟨s.desk.vault.put cell plain, own,
            s.desk.calls ++ [(config, (config.key field).raw)]⟩⟩) := by
  unfold disclose
  rw [KeyField.reveal_eq]
  unfold CredentialResolver.reveal
  rw [DecryptorSet.decryptorFor_resolver]
  simp only [hCell]
  cases hKnown : s.desk.vault.get? cell with
  | some plain =>
      have hGet :
          (decryptors.resolver.vault.get s.desk).get? cell =
            some plain :=
        hKnown
      refine Or.inl ⟨plain, rfl, ?_⟩
      simp only [hGet]
  | none =>
      have hGet :
          (decryptors.resolver.vault.get s.desk).get? cell = none :=
        hKnown
      rcases hMade :
          decryptors.choose config config (config.key field).raw
            s.desk.own with
        ⟨plain, own⟩
      refine Or.inr ⟨plain, own, rfl, rfl, ?_⟩
      simp only [hGet, Decryptor.noted, hMade]
      rfl

end Ledger

end StorageRouting

------------------------------------------------------------
-- Soundness
------------------------------------------------------------

namespace StorageRouting

namespace Ledger

variable {τ : Type}

/-
  A ledger as it is when things started with a vault: every copy
  has cells, the vault holds what is known by the disclosures,
  and each of these follows those before it.
-/
structure Sound
    (v : Vault)
    (s : Ledger τ) : Prop where
  placed :
    ∀ (i : Nat) (c : BackendConfig),
      s.copies[i]? = some c → c.Placed s.desk.vault
  known :
    ∀ cell,
      s.desk.vault.get? cell = Disclosure.known? v s.log (some cell)
  follows :
    ∀ earlier (d : Disclosure τ) later,
      s.log = earlier ++ d :: later → d.Follows v earlier

theorem Sound.start
    {v : Vault}
    {c : BackendConfig}
    (h : c.Placed v)
    (own : τ) : Sound v (start v own c) where
  placed := by
    intro i d hAt
    rw [Ledger.start, List.getElem?_singleton] at hAt
    split at hAt
    case isTrue =>
      cases hAt
      exact h
    case isFalse => cases hAt
  known := by
    intro cell
    exact (Option.or_none).symm
  follows := by
    intro earlier d later hLog
    exact absurd hLog.symm (by simp [Ledger.start])

/- A list ends with an element that stands somewhere in it. -/
theorem split_concat
    {α : Type}
    {xs earlier later : List α}
    {x y : α}
    (h : xs ++ [x] = earlier ++ y :: later) :
    (∃ rest, xs = earlier ++ y :: rest) ∨
      (earlier = xs ∧ y = x) := by
  rcases List.eq_nil_or_concat later with rfl | ⟨rest, z, rfl⟩
  · have hBoth := List.append_inj' h rfl
    exact Or.inr ⟨hBoth.1.symm, (List.cons.inj hBoth.2).1.symm⟩
  · have hEnd :
        xs ++ [x] = (earlier ++ y :: rest) ++ [z] := by
      rw [h]
      simp
    exact Or.inl ⟨rest, (List.append_inj' hEnd rfl).1⟩

/- One more disclosure that follows those before it. -/
theorem Sound.follows_concat
    {v : Vault}
    {s : Ledger τ}
    (h : Sound v s)
    {new : Disclosure τ}
    (hNew : new.Follows v s.log)
    {earlier later : List (Disclosure τ)}
    {d : Disclosure τ}
    (hLog : s.log ++ [new] = earlier ++ d :: later) :
    d.Follows v earlier := by
  rcases split_concat hLog with ⟨rest, hOld⟩ | ⟨rfl, rfl⟩
  · exact h.follows earlier d rest hOld
  · exact hNew

/- The disclosures stay sound when one more is made. -/
theorem Sound.disclose
    {v : Vault}
    {s : Ledger τ}
    (h : Sound v s)
    {i : Nat}
    {c : BackendConfig}
    (hAt : s.copies[i]? = some c)
    (field : KeyField)
    (decryptors : DecryptorSet τ) :
    Sound v
      { s with
        desk := (s.disclose c field decryptors).after
        log := s.log ++ [s.disclose c field decryptors] } := by
  rcases h.placed i c hAt field with ⟨cell, hMem, hLess⟩
  have hCell : (c.key field).cell = some cell := hMem
  have hKnown := h.known cell
  rcases s.disclose_cases c field decryptors hCell with
    ⟨plain, hGet, hMade⟩ | ⟨plain, own, hGet, hChosen, hMade⟩
  all_goals
    rw [hGet] at hKnown
    rw [hMade]
    constructor
  -- the vault has it, so neither the vault nor what is known moves
  case inl.placed => exact h.placed
  case inl.known =>
    intro other
    rw [Disclosure.known?_concat, ← h.known other]
    by_cases hSame : cell = other
    · subst hSame
      rw [hGet, Option.some_or]
    · have hNot :
          ¬ (c.key field).cell = some other := by
        rw [hCell]
        intro hEq
        exact hSame (Option.some.inj hEq)
      simp [Disclosure.key, hNot]
  case inl.follows =>
    intro earlier d later hLog
    apply h.follows_concat _ hLog
    unfold Disclosure.Follows Disclosure.key
    simp only [hCell, ← hKnown, and_self]
  -- the answer is put in the cell and noted in the log at once
  case inr.placed =>
    intro j d hCopy
    exact (h.placed j d hCopy).mono (by simp)
  case inr.known =>
    intro other
    rw [Disclosure.known?_concat, ← h.known other,
      Vault.get?_put _ hLess]
    by_cases hSame : cell = other
    · subst hSame
      simp [Disclosure.key, hCell, hGet]
    · have hNot :
          ¬ (c.key field).cell = some other := by
        rw [hCell]
        intro hEq
        exact hSame (Option.some.inj hEq)
      simp [Disclosure.key, hNot, hSame]
  case inr.follows =>
    intro earlier d later hLog
    apply h.follows_concat _ hLog
    unfold Disclosure.Follows Disclosure.key
    simp only [hCell, ← hKnown, hChosen, and_self]

/- Each step keeps a ledger sound. -/
theorem Sound.step
    {v : Vault}
    {s : Ledger τ}
    (h : Sound v s)
    (st : LedgerStep τ) : Sound v (s.step st) := by
  cases st with
  | reveal i field decryptors =>
      cases hAt : s.copies[i]? with
      | none => simpa only [Ledger.step, hAt] using h
      | some c =>
          simpa only [Ledger.step, hAt] using
            h.disclose hAt field decryptors
  | copy i =>
      refine ⟨?_, h.known, h.follows⟩
      intro j c hAt
      have hMem : c ∈ s.copies ++ s.copies[i]?.toList :=
        List.mem_of_getElem? hAt
      rcases List.mem_append.mp hMem with hOld | hNew
      · rcases List.mem_iff_getElem?.mp hOld with ⟨k, hk⟩
        exact h.placed k c hk
      · exact h.placed i c (Option.mem_toList.mp hNew)
  | configure i decryptor publicKey =>
      refine ⟨?_, h.known, h.follows⟩
      intro j c hAt
      simp only [Ledger.step, List.getElem?_modify] at hAt
      rcases Option.map_eq_some_iff.mp hAt with ⟨d, hOld, rfl⟩
      have hPlaced := h.placed j d hOld
      split
      case isTrue =>
        intro field
        have hKey := hPlaced field
        cases field <;> exact hKey
      case isFalse => exact hPlaced
  | replace i field raw =>
      refine ⟨?_, ?_, h.follows⟩
      · intro j c hAt
        simp only [Ledger.step, List.getElem?_modify] at hAt
        rcases Option.map_eq_some_iff.mp hAt with ⟨d, hOld, rfl⟩
        have hPlaced :
            d.Placed (s.desk.vault.place (Credential.new raw)).2 :=
          (h.placed j d hOld).mono (by simp [Vault.place])
        split
        case isFalse => exact hPlaced
        case isTrue =>
          intro other
          by_cases hField : other = field
          · subst hField
            rw [BackendConfig.key_withKey_self]
            -- the new credential has the cell behind all others
            exact ⟨s.desk.vault.cells.length, rfl,
              by simp [Ledger.step, Vault.place]⟩
          · rw [BackendConfig.key_withKey_of_ne d hField]
            exact hPlaced other
      · intro cell
        have hPlace :=
          Vault.get?_place s.desk.vault (Credential.new raw) cell
        exact hPlace.trans (h.known cell)

/- So does a whole run. -/
theorem Sound.run
    {v : Vault}
    {s : Ledger τ}
    (h : Sound v s)
    (steps : List (LedgerStep τ)) : Sound v (s.run steps) := by
  induction steps generalizing s with
  | nil => exact h
  | cons st steps ih => exact ih (h.step st)

end Ledger

end StorageRouting

------------------------------------------------------------
-- Sharing
------------------------------------------------------------

namespace StorageRouting

namespace Ledger

variable {τ : Type} {s : Ledger τ} {i : Nat} {field : KeyField}
variable {c : BackendConfig}

/- A step keeps every credential that it does not replace. -/
theorem key_step
    (hAt : s.copies[i]? = some c)
    {st : LedgerStep τ}
    (hKeeps : ¬ st.replaces i field) :
    ∃ d,
      (s.step st).copies[i]? = some d ∧ d.key field = c.key field := by
  cases st with
  | reveal j other decryptors =>
      refine ⟨c, ?_, rfl⟩
      cases hCopy : s.copies[j]? <;>
        simpa only [step, hCopy] using hAt
  | copy j =>
      refine ⟨c, ?_, rfl⟩
      have hLess : i < s.copies.length :=
        (List.getElem?_eq_some_iff.mp hAt).1
      simpa only [step, List.getElem?_append_left hLess] using hAt
  | configure j decryptor publicKey =>
      simp only [step, List.getElem?_modify, hAt, Option.map_eq_map,
        Option.map_some]
      refine ⟨_, rfl, ?_⟩
      by_cases hSame : j = i
      · rw [if_pos hSame]
        cases field <;> rfl
      · rw [if_neg hSame]
  | replace j other raw =>
      simp only [step, List.getElem?_modify, hAt, Option.map_eq_map,
        Option.map_some]
      refine ⟨_, rfl, ?_⟩
      by_cases hSame : j = i
      · rw [if_pos hSame]
        have hField : field ≠ other := by
          intro hEq
          exact hKeeps ⟨hSame, hEq.symm⟩
        exact c.key_withKey_of_ne hField _
      · rw [if_neg hSame]

/- So does a whole run. -/
theorem key_run
    (hAt : s.copies[i]? = some c)
    {steps : List (LedgerStep τ)}
    (hKeeps : ∀ st ∈ steps, ¬ st.replaces i field) :
    ∃ d,
      (s.run steps).copies[i]? = some d ∧
      d.key field = c.key field := by
  induction steps generalizing s c with
  | nil => exact ⟨c, hAt, rfl⟩
  | cons st steps ih =>
      rcases key_step hAt (hKeeps st List.mem_cons_self) with
        ⟨d, hStep, hKey⟩
      rcases ih hStep
          (fun st hst => hKeeps st (List.mem_cons_of_mem _ hst)) with
        ⟨e, hRun, hKey'⟩
      exact ⟨e, hRun, hKey'.trans hKey⟩

/-
  A replaced credential is new: it shares its cell with no other
  credential, and nothing is known of it.
-/
theorem Sound.replace
    {v : Vault}
    (h : Sound v s)
    {raw : String}
    (hAt : (s.step (.replace i field raw)).copies[i]? = some c) :
    (c.key field).raw = raw ∧
    Disclosure.known? v s.log (c.key field).cell = none ∧
    ∀ j (d : BackendConfig) other,
      (s.step (.replace i field raw)).copies[j]? = some d →
      j ≠ i ∨ other ≠ field →
      (d.key other).cell ≠ (c.key field).cell := by
  simp only [Ledger.step, List.getElem?_modify] at hAt ⊢
  rcases Option.map_eq_some_iff.mp hAt with ⟨b, hOld, hNew⟩
  rw [if_pos trivial] at hNew
  have hKey :
      c.key field = ⟨raw, some s.desk.vault.cells.length⟩ := by
    rw [← hNew, BackendConfig.key_withKey_self]
    rfl
  have hApart :
      ∀ {j : Nat} {e : BackendConfig},
        s.copies[j]? = some e →
        ∀ other, (e.key other).cell ≠ (c.key field).cell := by
    intro j e hCopy other hSame
    rcases h.placed j e hCopy other with ⟨cell, hCell, hLess⟩
    rw [hKey, Option.mem_def.mp hCell] at hSame
    have hLast := Option.some.inj hSame
    omega
  refine ⟨?_, ?_, ?_⟩
  · rw [hKey]
  · rw [hKey, ← h.known, Vault.get?_length]
  · intro j d other hCopy hOther
    rcases Option.map_eq_some_iff.mp hCopy with ⟨e, hOldCopy, rfl⟩
    split
    case isFalse => exact hApart hOldCopy other
    case isTrue hSame =>
      have hField : other ≠ field := by
        rcases hOther with hOther | hOther
        · exact absurd hSame.symm hOther
        · exact hOther
      rw [e.key_withKey_of_ne hField]
      exact hApart hOldCopy other

/- Asking for a plaintext makes no cells. -/
theorem length_disclose
    (s : Ledger τ)
    (c : BackendConfig)
    (field : KeyField)
    (decryptors : DecryptorSet τ) :
    (s.disclose c field decryptors).after.vault.cells.length =
      s.desk.vault.cells.length := by
  unfold disclose
  rw [KeyField.reveal_eq]
  unfold CredentialResolver.reveal
  rw [DecryptorSet.decryptorFor_resolver]
  cases (c.key field).cell with
  | none => rfl
  | some cell =>
      dsimp only
      cases (decryptors.resolver.vault.get s.desk).get? cell with
      | some plain => rfl
      | none => exact Vault.length_put s.desk.vault cell _

/-
  Leaving all requests for plaintexts out of a run changes no
  copy.
-/
theorem copies_run_filter
    {t : Ledger τ}
    (hCopies : s.copies = t.copies)
    (hCells :
      s.desk.vault.cells.length = t.desk.vault.cells.length)
    (steps : List (LedgerStep τ)) :
    (s.run steps).copies =
      (t.run (steps.filter (fun st => !st.isReveal))).copies := by
  induction steps generalizing s t with
  | nil => exact hCopies
  | cons st steps ih =>
      cases st with
      | reveal i field decryptors =>
          apply ih
          · cases hAt : s.copies[i]? <;>
              simpa only [step, hAt] using hCopies
          · cases hAt : s.copies[i]? with
            | none => simpa only [step, hAt] using hCells
            | some c =>
                simp only [step, hAt, length_disclose, hCells]
      | copy i =>
          apply ih
          · simp only [step, hCopies]
          · exact hCells
      | configure i decryptor publicKey =>
          apply ih
          · simp only [step, hCopies]
          · exact hCells
      | replace i field raw =>
          apply ih
          · simp only [step, Vault.place, hCopies, hCells]
          · simp [step, Vault.place, hCells]

end Ledger

end StorageRouting

------------------------------------------------------------
-- Discretion
------------------------------------------------------------

namespace StorageRouting

namespace Ledger

variable {τ : Type}

/-
  What holds of a configuration that starts in a vault, and of
  its copies, after any steps.
-/
structure Discreet
    (v : Vault)
    (own : τ)
    (c : BackendConfig)
    (steps : List (LedgerStep τ)) : Prop where
  follows :
    ∀ earlier (d : Disclosure τ) later,
      ((start v own c).run steps).log = earlier ++ d :: later →
      d.Follows v earlier
  kept :
    ∀ before after (i : Nat) field (a : BackendConfig),
      steps = before ++ after →
      ((start v own c).run before).copies[i]? = some a →
      (∀ st ∈ after, ¬ st.replaces i field) →
      ∃ b,
        ((start v own c).run steps).copies[i]? = some b ∧
        b.key field = a.key field
  replaced :
    ∀ before (i : Nat) field raw (a : BackendConfig),
      steps = before ++ [.replace i field raw] →
      ((start v own c).run steps).copies[i]? = some a →
      (a.key field).raw = raw ∧
      Disclosure.known? v ((start v own c).run steps).log
          (a.key field).cell =
        none ∧
      ∀ (j : Nat) (b : BackendConfig) other,
        ((start v own c).run steps).copies[j]? = some b →
        j ≠ i ∨ other ≠ field →
        (b.key other).cell ≠ (a.key field).cell
  unseen :
    ((start v own c).run steps).copies =
      ((start v own c).run
        (steps.filter (fun st => !st.isReveal))).copies
  forms :
    ∀ a ∈ ((start v own c).run steps).copies,
      a.forms = a.detached.forms
  equal :
    ∀ a ∈ ((start v own c).run steps).copies,
    ∀ b ∈ ((start v own c).run steps).copies,
      a.same b = true ↔ a.detached = b.detached
  kinds :
    ∀ a b : BackendConfig,
      a.keyless = b.keyless →
      (∀ field, (a.key field).kind = (b.key field).kind) →
      a.diagnostic = b.diagnostic

/-
  Whatever is asked of a configuration and its copies, through
  any decryptors: each credential is decrypted once, when it is
  first asked for, and no form of a configuration shows it.
-/
theorem run_discreet
    {v : Vault}
    {c : BackendConfig}
    (hPlaced : c.Placed v)
    (own : τ)
    (steps : List (LedgerStep τ)) : Discreet v own c steps where
  follows := ((Sound.start hPlaced own).run steps).follows
  kept := by
    intro before after i field a hSteps hAt hKeeps
    subst hSteps
    rw [run, List.foldl_append]
    exact key_run hAt hKeeps
  replaced := by
    intro before i field raw a hSteps hAt
    subst hSteps
    rw [run, List.foldl_append] at hAt ⊢
    exact ((Sound.start hPlaced own).run before).replace hAt
  unseen := copies_run_filter rfl rfl steps
  forms := fun a _ => a.forms_detached.symm
  equal := fun a _ b _ => a.same_iff b
  kinds := fun _ _ => BackendConfig.diagnostic_congr

/- A configuration whose credentials have the first two cells. -/
def placedConfig : BackendConfig :=
  { BackendConfig.new "s3a" "http://localhost:9000" "ak" "ENC(abc)"
    with
    accessKey := ⟨"ak", some 0⟩
    secretKey := ⟨"ENC(abc)", some 1⟩ }

/- One decryptor that counts its calls, and one that does not. -/
def countingSet : DecryptorSet Nat where
  default := Decryptor.upper
  named :=
    Dictionary.empty.insert "counting"
      (Decryptor.counting { get := id, set := fun n _ => n })

/- A copy names another decryptor, and gets another credential. -/
def sharedRun : List (LedgerStep Nat) :=
  [.reveal 0 .access countingSet, .copy 0,
    .configure 1 (some "counting") none,
    .reveal 1 .access countingSet, .reveal 1 .secret countingSet,
    .replace 1 .access "other", .reveal 1 .access countingSet,
    .reveal 0 .secret countingSet]

theorem run_discreet_shared :
    placedConfig.Placed ⟨[none, none]⟩ ∧
    Discreet ⟨[none, none]⟩ 0 placedConfig sharedRun := by
  have hPlaced : placedConfig.Placed ⟨[none, none]⟩ := by
    intro field
    cases field with
    | access => exact ⟨0, rfl, by decide⟩
    | secret => exact ⟨1, rfl, by decide⟩
  exact ⟨hPlaced, run_discreet hPlaced 0 sharedRun⟩

/- The copy shares what was revealed until it is replaced. -/
example :
    ((start ⟨[none, none]⟩ 0 placedConfig).run sharedRun).log.map
        Disclosure.answer =
      ["AK", "AK", "1:s3a:ENC(abc)", "2:s3a:other",
        "1:s3a:ENC(abc)"] := by
  decide +kernel

end Ledger

end StorageRouting
