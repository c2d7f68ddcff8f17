import Mathlib.Data.List.TakeWhile
import StorageRouting.Routing.Resolver

/-
  What the standard chain finds.  Headers and session attributes
  are looked up under the name behind their mark and one more
  character, whichever that character is; where nothing stands
  under that name the key is left to expressions.

  Key definitions include:
    * `KeyResolver.NamesBehind`
    * `KeyResolver.ShowsBehind`
    * `KeyResolver.Takes`
    * `Expression.IsIdentifier`

  Main statements:
    * `KeyResolver.takes_iff`
    * `ResolverChain.firstOf_of_takes`
    * `ResolverChain.firstOf_of_not_takes`
    * `Expression.key?_identifier`
    * `ResolverChain.standard_reads_behind_marks`
-/

------------------------------------------------------------
-- Names Behind Marks
------------------------------------------------------------

namespace StorageRouting

namespace KeyResolver

/-
  A key names something behind a mark: there is one character
  after the mark, and the rest is the name.
-/
def NamesBehind (mark key name : String) : Prop :=
  name ≠ "" ∧
    ∃ c, key.toList = mark.toList ++ c :: name.toList

/- A text that is not empty stands behind a mark. -/
def ShowsBehind
    (mark : String)
    (look? : String → Option String)
    (key value : String) : Prop :=
  ∃ name, NamesBehind mark key name ∧
    look? name = some value ∧ value ≠ ""

/- The name behind a mark is the one that is read. -/
theorem nameBehind?_eq_some_iff
    {mark key name : String} :
    nameBehind? mark key = some name ↔
      NamesBehind mark key name := by
  have hText :
      ∀ rest, Text.dropStart? mark.toList key.toList = some rest ↔
        key.toList = mark.toList ++ rest :=
    fun rest => Text.dropStart?_eq_some_iff
  unfold nameBehind? NamesBehind
  constructor
  · intro h
    split at h
    · rename_i first c rest hDropped
      cases h
      refine ⟨by simp [← String.toList_inj], first, ?_⟩
      rw [(hText _).mp hDropped, String.toList_ofList]
    · cases h
  · rintro ⟨hName, first, hKey⟩
    rw [(hText _).mpr hKey]
    cases hChars : name.toList with
    | nil =>
        exact absurd (String.toList_inj.mp hChars) hName
    | cons c rest =>
        simp only [← hChars, String.ofList_toList]

/- A key with a name behind a mark starts with the mark. -/
theorem NamesBehind.startsWith
    {mark key name : String}
    (h : NamesBehind mark key name) :
    Text.startsWith mark key = true := by
  rcases h with ⟨_, c, hKey⟩
  rw [Text.startsWith, hKey, List.isPrefixOf_iff_prefix]
  exact List.prefix_append _ _

/- No key has a name behind both marks. -/
theorem NamesBehind.not_session
    {key name other : String}
    (hHeader : NamesBehind "#header" key name) :
    ¬ NamesBehind "#session" key other := by
  rintro ⟨_, d, hSession⟩
  rcases hHeader with ⟨_, c, hHeader⟩
  rw [hHeader] at hSession
  have hSecond := congrArg (fun cs => cs[1]?) hSession
  simp at hSecond

/- A text that is not empty stays. -/
theorem nonEmpty?_eq_some_iff
    {found : Option String}
    {value : String} :
    nonEmpty? found = some value ↔
      found = some value ∧ value ≠ "" := by
  cases found with
  | none => simp [nonEmpty?]
  | some s =>
      by_cases hEmpty : s = ""
      · subst hEmpty
        simp only [nonEmpty?]
        constructor
        · intro h
          cases h
        · rintro ⟨hSame, hFull⟩
          exact absurd (Option.some.inj hSame).symm hFull
      · simp only [nonEmpty?, String.isEmpty_iff, hEmpty,
          if_false, Option.some.injEq]
        constructor
        · rintro rfl
          exact ⟨rfl, hEmpty⟩
        · exact And.left

end KeyResolver

end StorageRouting

------------------------------------------------------------
-- Taking Keys
------------------------------------------------------------

namespace StorageRouting

namespace KeyResolver

/- A resolver takes a key: it handles it and finds a value. -/
def Takes
    (r : KeyResolver)
    (i : Invocation)
    (key value : String) : Prop :=
  r.handles key = true ∧ r.find? i key = some value

/-
  A resolver that looks up the name behind its mark takes
  exactly the keys behind whose mark a text stands.
-/
theorem takes_iff
    {r : KeyResolver}
    {mark : String}
    (look? : Invocation → String → Option String)
    (hHandles : r.handles = Text.startsWith mark)
    (hFind :
      ∀ i key,
        r.find? i key =
          match nameBehind? mark key with
          | some name => nonEmpty? (look? i name)
          | none => none)
    (i : Invocation)
    (key value : String) :
    r.Takes i key value ↔
      ShowsBehind mark (look? i) key value := by
  unfold Takes ShowsBehind
  rw [hHandles, hFind]
  constructor
  · rintro ⟨_, hFound⟩
    split at hFound
    · rename_i name hName
      exact
        ⟨name, nameBehind?_eq_some_iff.mp hName,
          nonEmpty?_eq_some_iff.mp hFound⟩
    · cases hFound
  · rintro ⟨name, hName, hFound⟩
    rw [nameBehind?_eq_some_iff.mpr hName]
    exact ⟨hName.startsWith, nonEmpty?_eq_some_iff.mpr hFound⟩

/- What the resolver of headers takes. -/
theorem header_takes_iff
    (i : Invocation)
    (key value : String) :
    header.Takes i key value ↔
      ShowsBehind "#header" i.headerText? key value :=
  takes_iff Invocation.headerText? rfl (fun _ _ => rfl) i key
    value

/- What the resolver of session attributes takes. -/
theorem session_takes_iff
    (i : Invocation)
    (key value : String) :
    session.Takes i key value ↔
      ShowsBehind "#session" i.session.get? key value :=
  takes_iff (fun i => i.session.get?) rfl (fun _ _ => rfl) i key
    value

end KeyResolver

namespace ResolverChain

variable {i : Invocation} {key : String} {r : KeyResolver}

/- The first resolver that takes a key decides. -/
theorem firstOf_of_takes
    {value : String}
    (h : r.Takes i key value)
    (rest : List KeyResolver) :
    firstOf i key (r :: rest) = some value := by
  rw [firstOf, if_pos h.1, h.2]

/- A resolver that does not take a key leaves it to the rest. -/
theorem firstOf_of_not_takes
    (h : ∀ value, ¬ r.Takes i key value)
    (rest : List KeyResolver) :
    firstOf i key (r :: rest) = firstOf i key rest := by
  rw [firstOf]
  by_cases hHandles : r.handles key = true
  · rw [if_pos hHandles]
    cases hFound : r.find? i key with
    | none => rfl
    | some value => exact absurd ⟨hHandles, hFound⟩ (h value)
  · rw [if_neg hHandles]

/- A resolver alone finds what it finds in keys it handles. -/
theorem firstOf_singleton
    (h : r.handles key = true) :
    firstOf i key [r] = r.find? i key := by
  rw [firstOf, if_pos h]
  cases r.find? i key <;> rfl

end ResolverChain

end StorageRouting

------------------------------------------------------------
-- Identifiers
------------------------------------------------------------

namespace StorageRouting

namespace Expression

/- One or more ASCII letters, digits and underscores. -/
def IsIdentifier (name : String) : Prop :=
  name ≠ "" ∧ ∀ c ∈ name.toList, isIdentChar c = true

/- The characters of identifiers lie between 0 and z. -/
theorem toNat_of_isIdentChar
    {c : Char}
    (h : isIdentChar c = true) :
    48 ≤ c.toNat ∧ c.toNat ≤ 122 := by
  have hBounds :
      'A'.val.toNat = 65 ∧ 'Z'.val.toNat = 90 ∧
        'a'.val.toNat = 97 ∧ 'z'.val.toNat = 122 ∧
        '0'.val.toNat = 48 ∧ '9'.val.toNat = 57 := by
    decide
  have hNumber : c.toNat = c.val.toNat := rfl
  have hRanges :
      (decide ('A'.val ≤ c.val ∧ c.val ≤ 'Z'.val) ||
        ('a'.val ≤ c.val && c.val ≤ 'z'.val) ||
        ('0'.val ≤ c.val && c.val ≤ '9'.val) ||
        c == '_') = true :=
    h
  simp only [Bool.or_eq_true, Bool.and_eq_true,
    decide_eq_true_eq, beq_iff_eq,
    UInt32.le_iff_toNat_le] at hRanges
  rcases hRanges with ((hUpper | hLower) | hDigit) | rfl
  · omega
  · omega
  · omega
  · decide

/- No character of an identifier is blank. -/
theorem isBlank_of_isIdentChar
    {c : Char}
    (h : isIdentChar c = true) : Text.isBlank c = false := by
  have hRange := toNat_of_isIdentChar h
  simp only [Text.isBlank, Bool.or_eq_false_iff,
    Bool.and_eq_false_iff, decide_eq_false_iff_not,
    beq_eq_false_iff_ne]
  omega

/- An identifier alone is a variable with an empty path. -/
theorem parse?_identifier
    {name : String}
    (h : IsIdentifier name) :
    parse? ("#" ++ name) = some ⟨name, []⟩ := by
  have hTrim : Text.trimChars name.toList = name.toList :=
    Text.trimChars_eq
      (fun c hc => isBlank_of_isIdentChar (h.2 c hc))
  have hAll : name.toList.takeWhile isIdentChar = name.toList :=
    List.takeWhile_eq_self_iff.mpr h.2
  have hNone : name.toList.dropWhile isIdentChar = [] :=
    List.dropWhile_eq_nil_iff.mpr h.2
  have hKey : ("#" ++ name).toList = '#' :: name.toList := by
    rw [String.toList_append]
    rfl
  have hFull : name.toList.isEmpty = false := by
    simpa using h.1
  simp only [parse?, hKey, hTrim, body?, hAll, hNone, hFull]
  rw [path?]
  simp

/-
  The key of an identifier is the rendered value of the first
  argument of that name, if there is one.
-/
theorem key?_identifier
    {i : Invocation}
    {name : String}
    (h : IsIdentifier name)
    (hRoot : name ≠ "root")
    {v : Value}
    (hArgument : i.argument? name = some v) :
    key? i ("#" ++ name) = render? v := by
  simp only [key?, parse?_identifier h, eval?, if_neg hRoot,
    rootValue?, hArgument, follow?, Option.bind_some]

end Expression

end StorageRouting

------------------------------------------------------------
-- The Standard Chain
------------------------------------------------------------

namespace StorageRouting

namespace ResolverChain

open KeyResolver

/-
  What the standard chain finds in a dynamic key.  A header that
  stands under the name behind its mark and one more character
  comes first, then such a session attribute.  Every other key
  is what its expression is: an identifier alone stands for the
  rendered value of the first argument of that name.
-/
theorem standard_reads_behind_marks
    (i : Invocation)
    (key : String)
    (hDynamic : isDynamic key = true) :
    (∀ value,
      ShowsBehind "#header" i.headerText? key value →
        standard.resolve? i key = some value) ∧
    (∀ value,
      ShowsBehind "#session" i.session.get? key value →
        standard.resolve? i key = some value) ∧
    ((∀ value,
        ¬ ShowsBehind "#header" i.headerText? key value ∧
        ¬ ShowsBehind "#session" i.session.get? key value) →
      standard.resolve? i key = expression.find? i key) ∧
    ∀ name v,
      key = "#" ++ name → Expression.IsIdentifier name →
        name ≠ "root" → i.argument? name = some v →
          expression.find? i key = Expression.render? v := by
  refine ⟨?_, ?_, ?_, ?_⟩
  · intro value hHeader
    have hTakes := (header_takes_iff i key value).mpr hHeader
    exact firstOf_of_takes hTakes _
  · intro value hSession
    have hTakes := (session_takes_iff i key value).mpr hSession
    have hNoHeader : ∀ v, ¬ header.Takes i key v := by
      intro v hHeader
      rcases (header_takes_iff i key v).mp hHeader with
        ⟨name, hName, _⟩
      rcases hSession with ⟨other, hOther, _⟩
      exact hName.not_session hOther
    rw [resolve?, standard, firstOf_of_not_takes hNoHeader]
    exact firstOf_of_takes hTakes _
  · intro hNothing
    have hNoHeader : ∀ v, ¬ header.Takes i key v :=
      fun v h => (hNothing v).1 ((header_takes_iff i key v).mp h)
    have hNoSession : ∀ v, ¬ session.Takes i key v :=
      fun v h => (hNothing v).2 ((session_takes_iff i key v).mp h)
    rw [resolve?, standard, firstOf_of_not_takes hNoHeader,
      firstOf_of_not_takes hNoSession]
    exact firstOf_singleton hDynamic
  · rintro name v rfl hName hRoot hArgument
    exact Expression.key?_identifier hName hRoot hArgument

/-
  A call with a header, a session attribute, and an argument
  whose name goes on behind the mark of session attributes.
-/
def sampleCall : Invocation :=
  ((((Invocation.new "store").arg "session_id"
    (.string "tenant-7")).arg "role" (.string "archive")).header
      "Tenant" "blue").sessionValue "id" "u42"

/- What the chain finds in keys of the sample. -/
theorem standard_reads_sampleCall :
    isDynamic "#header.tenant" = true ∧
      ShowsBehind "#header" sampleCall.headerText?
        "#header.tenant" "blue" ∧
      standard.resolve? sampleCall "#header.tenant" =
        some "blue" ∧
      isDynamic "#session.id" = true ∧
      ShowsBehind "#session" sampleCall.session.get?
        "#session.id" "u42" ∧
      standard.resolve? sampleCall "#session.id" =
        some "u42" ∧
      isDynamic "#role" = true ∧
      Expression.IsIdentifier "role" ∧
      sampleCall.argument? "role" = some (.string "archive") ∧
      standard.resolve? sampleCall "#role" =
        some "archive" := by
  have hHeader :
      ShowsBehind "#header" sampleCall.headerText?
        "#header.tenant" "blue" :=
    ⟨"tenant", ⟨by decide, '.', rfl⟩, rfl, by decide⟩
  have hSession :
      ShowsBehind "#session" sampleCall.session.get?
        "#session.id" "u42" :=
    ⟨"id", ⟨by decide, '.', rfl⟩, rfl, by decide⟩
  have hRole : Expression.IsIdentifier "role" :=
    ⟨by decide, List.all_eq_true.mp rfl⟩
  have hNothing :
      ∀ value,
        ¬ ShowsBehind "#header" sampleCall.headerText?
            "#role" value ∧
          ¬ ShowsBehind "#session" sampleCall.session.get?
            "#role" value := by
    intro value
    constructor
    · rintro ⟨name, hName, _⟩
      exact absurd hName.startsWith (by decide)
    · rintro ⟨name, hName, _⟩
      exact absurd hName.startsWith (by decide)
  have hByRole :=
    standard_reads_behind_marks sampleCall "#role" rfl
  refine
    ⟨rfl, hHeader, ?_, rfl, hSession, ?_, rfl, hRole, rfl, ?_⟩
  · exact
      (standard_reads_behind_marks sampleCall "#header.tenant"
        rfl).1 "blue" hHeader
  · exact
      (standard_reads_behind_marks sampleCall "#session.id"
        rfl).2.1 "u42" hSession
  · rw [hByRole.2.2.1 hNothing,
      hByRole.2.2.2 "role" (.string "archive") rfl hRole
        (by decide) rfl]
    rfl

/-
  It is not so that every dynamic key is left to expressions
  but those with a dot behind a mark: in the sample a session
  attribute hides an argument.
-/
theorem standard_not_left_to_expressions :
    ¬ ∀ (i : Invocation) (key : String),
        isDynamic key = true →
          Text.startsWith "#header." key = false →
            Text.startsWith "#session." key = false →
              standard.resolve? i key =
                expression.find? i key := by
  intro hLeft
  have hSession :
      standard.resolve? sampleCall "#session_id" = some "u42" :=
    rfl
  have hName : Expression.IsIdentifier "session_id" :=
    ⟨by decide, List.all_eq_true.mp rfl⟩
  have hGiven :
      sampleCall.argument? "session_id" =
        some (.string "tenant-7") :=
    rfl
  have hArgument :
      expression.find? sampleCall "#session_id" =
        some "tenant-7" :=
    Expression.key?_identifier hName (by decide) hGiven
  have hSame :=
    hLeft sampleCall "#session_id" (by decide) (by decide)
      (by decide)
  rw [hSession, hArgument] at hSame
  exact absurd hSame (by decide)

end ResolverChain

end StorageRouting
