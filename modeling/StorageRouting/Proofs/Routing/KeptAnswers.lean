import Mathlib.Data.List.TakeWhile
import StorageRouting.Proofs.Routing.CallTree

/-
  Tables that are asked while keys are still being attached.  A
  call is answered for good when it is first looked up: what was
  attached by then is answered, and what is attached to it
  afterwards is not seen.

  Key definitions include:
    * `RouteStep`
    * `RouteStep.run`
    * `RouteStep.attached?`
    * `RouteStep.untilAsked`
    * `RouteTable.Recalls`

  Main statements:
    * `RouteTable.Recalls.step`
    * `RouteTable.recalls_run`
    * `RouteTable.lookup_keeps_first_answer`
-/

------------------------------------------------------------
-- Steps on a Table
------------------------------------------------------------

namespace StorageRouting

/- What is done with a table: keys are attached and looked up. -/
inductive RouteStep where
| annotateType (owner key : String) : RouteStep
| annotateMethod (site : CallSite) (key : String) : RouteStep
| findKey (site : CallSite) : RouteStep
deriving DecidableEq, Repr

namespace RouteStep

/- The table after a step. -/
def apply
    (t : RouteTable) :
    RouteStep → RouteTable
| .annotateType owner key => t.annotateType owner key
| .annotateMethod site key => t.annotateMethod site key
| .findKey site => (t.findKey site).2

/- The table after steps in order. -/
def run
    (steps : List RouteStep)
    (t : RouteTable) : RouteTable :=
  steps.foldl apply t

/- The key that a step attaches to a method. -/
def methodKey?
    (site : CallSite) : RouteStep → Option String
| .annotateMethod other key =>
    if site = other then some key else none
| _ => none

/- The key that a step attaches to a type. -/
def typeKey?
    (owner : String) : RouteStep → Option String
| .annotateType other key =>
    if owner = other then some key else none
| _ => none

/- What the last of the steps tells that tell anything. -/
def lastOf
    (tells : RouteStep → Option String)
    (past : List RouteStep) : Option String :=
  past.reverse.findSome? tells

/-
  The key that steps attach to a call: the last one of its
  method, else the last one of its type.
-/
def attached?
    (site : CallSite)
    (past : List RouteStep) : Option String :=
  (lastOf (methodKey? site) past).or
    (lastOf (typeKey? site.owner) past)

/- The steps before a call was first looked up. -/
def untilAsked
    (site : CallSite)
    (past : List RouteStep) : List RouteStep :=
  past.takeWhile (fun s => decide (s ≠ .findKey site))

/- The steps from the first lookup of a call on. -/
def sinceAsked
    (site : CallSite)
    (past : List RouteStep) : List RouteStep :=
  past.dropWhile (fun s => decide (s ≠ .findKey site))

/- Whether a step attaches a key that counts for a call. -/
def attachesTo
    (site : CallSite)
    (s : RouteStep) : Bool :=
  (s.methodKey? site).isSome || (s.typeKey? site.owner).isSome

end RouteStep

end StorageRouting

------------------------------------------------------------
-- Laws of Attachment
------------------------------------------------------------

namespace StorageRouting

namespace RouteStep

variable {site : CallSite} {past later : List RouteStep}

/- One more step tells first. -/
theorem lastOf_concat
    (tells : RouteStep → Option String)
    (past : List RouteStep)
    (s : RouteStep) :
    lastOf tells (past ++ [s]) = (tells s).or (lastOf tells past) := by
  rw [lastOf, List.reverse_concat, List.findSome?_cons, lastOf]
  cases tells s <;> rfl

/- Steps that tell nothing leave what was told. -/
theorem lastOf_append_of_none
    {tells : RouteStep → Option String}
    (h : ∀ s ∈ later, tells s = none) :
    lastOf tells (past ++ later) = lastOf tells past := by
  have hNothing : later.reverse.findSome? tells = none := by
    rw [List.findSome?_eq_none_iff]
    exact fun s hs => h s (List.mem_reverse.mp hs)
  rw [lastOf, List.reverse_append, List.findSome?_append,
    hNothing, Option.none_or, lastOf]

/- Steps that attach nothing to a call leave what it has. -/
theorem attached?_append_of_not
    (h : ∀ s ∈ later, s.attachesTo site = false) :
    attached? site (past ++ later) = attached? site past := by
  have hSplit :
      ∀ s ∈ later,
        s.methodKey? site = none ∧
          s.typeKey? site.owner = none := by
    intro s hs
    simpa [attachesTo] using h s hs
  rw [attached?, lastOf_append_of_none (fun s hs => (hSplit s hs).1),
    lastOf_append_of_none (fun s hs => (hSplit s hs).2), attached?]

/- The steps are those before the first lookup and the others. -/
theorem untilAsked_append_sinceAsked
    (site : CallSite)
    (past : List RouteStep) :
    untilAsked site past ++ sinceAsked site past = past :=
  List.takeWhile_append_dropWhile

/- Before a call is looked up all steps count. -/
theorem untilAsked_of_not_mem
    (h : .findKey site ∉ past) : untilAsked site past = past := by
  apply List.takeWhile_eq_self_iff.mpr
  intro s hs
  have hOther : s ≠ .findKey site := by
    rintro rfl
    exact h hs
  simpa using hOther

/- Once a call was looked up no later step counts. -/
theorem untilAsked_append_of_mem
    (h : .findKey site ∈ past)
    (later : List RouteStep) :
    untilAsked site (past ++ later) = untilAsked site past := by
  induction past with
  | nil => cases h
  | cons s rest ih =>
      by_cases hAsked : s = .findKey site
      · simp [untilAsked, hAsked]
      · have hRest : .findKey site ∈ rest := by
          rcases List.mem_cons.mp h with hHead | hRest
          · exact absurd hHead.symm hAsked
          · exact hRest
        have hCounts :
            decide (s ≠ .findKey site) = true := by
          simpa using hAsked
        have hSame := ih hRest
        unfold untilAsked at hSame ⊢
        simp only [List.cons_append, List.takeWhile_cons, hCounts,
          if_true, hSame]

/- A lookup of a call does not itself count for the call. -/
theorem untilAsked_concat_self
    (site : CallSite)
    (past : List RouteStep) :
    untilAsked site (past ++ [.findKey site]) =
      untilAsked site past := by
  by_cases hAsked : .findKey site ∈ past
  · exact untilAsked_append_of_mem hAsked _
  · have hAll : untilAsked site past = past :=
      untilAsked_of_not_mem hAsked
    unfold untilAsked at hAll ⊢
    rw [List.takeWhile_append_of_pos
        (List.takeWhile_eq_self_iff.mp hAll), hAll]
    simp

end RouteStep

end StorageRouting

------------------------------------------------------------
-- Tables and Their Past
------------------------------------------------------------

namespace StorageRouting

namespace RouteTable

open RouteStep

/-
  A table holds what its past attached, and for every call that
  was looked up the answer of its first lookup.
-/
structure Recalls
    (past : List RouteStep)
    (t : RouteTable) : Prop where
  methods :
    ∀ site,
      t.methodKeys.lookup site = lastOf (methodKey? site) past
  types :
    ∀ owner,
      t.typeKeys.lookup owner = lastOf (typeKey? owner) past
  kept :
    ∀ site,
      t.cache.lookup site =
        if .findKey site ∈ past then
          some (RouteStep.attached? site (untilAsked site past))
        else none

variable {past : List RouteStep} {t : RouteTable}

/- A lookup attaches nothing to methods. -/
theorem methodKeys_findKey
    (t : RouteTable)
    (site : CallSite) :
    (t.findKey site).2.methodKeys = t.methodKeys := by
  unfold RouteTable.findKey
  cases t.cache.lookup site <;> rfl

/- A lookup attaches nothing to types. -/
theorem typeKeys_findKey
    (t : RouteTable)
    (site : CallSite) :
    (t.findKey site).2.typeKeys = t.typeKeys := by
  unfold RouteTable.findKey
  cases t.cache.lookup site <;> rfl

/- After a lookup its answer is kept. -/
theorem lookup_cache_findKey
    (t : RouteTable)
    (site other : CallSite) :
    (t.findKey site).2.cache.lookup other =
      if other = site then some (t.findKey site).1
      else t.cache.lookup other := by
  unfold RouteTable.findKey
  by_cases hSame : other = site
  · subst hSame
    cases hKept : t.cache.lookup other with
    | some answer => simp [hKept]
    | none => simp
  · have hNe : (other == site) = false := by simpa using hSame
    cases t.cache.lookup site with
    | some answer => simp [hSame]
    | none => simp [hSame, List.lookup_cons, hNe]

/- A table without a past. -/
theorem Recalls.start : Recalls [] RouteTable.empty where
  methods _ := rfl
  types _ := rfl
  kept _ := rfl

/- What is attached according to the table and to its past. -/
theorem Recalls.attached?_eq
    (h : Recalls past t)
    (site : CallSite) :
    t.attached? site = RouteStep.attached? site past := by
  rw [RouteTable.attached?, RouteStep.attached?, h.methods site,
    h.types site.owner]
  cases lastOf (methodKey? site) past <;> rfl

/- A lookup is answered by what the call had when first asked. -/
theorem Recalls.findKey_fst
    (h : Recalls past t)
    (site : CallSite) :
    (t.findKey site).1 =
      RouteStep.attached? site (untilAsked site past) := by
  by_cases hAsked : .findKey site ∈ past
  · have hKept := h.kept site
    rw [if_pos hAsked] at hKept
    exact findKey_of_kept hKept
  · have hKept := h.kept site
    rw [if_neg hAsked] at hKept
    rw [untilAsked_of_not_mem hAsked, ← h.attached?_eq site]
    simp only [RouteTable.findKey, hKept]

/- What is kept for a call does not change by a step but its lookup. -/
theorem Recalls.kept_concat
    (h : Recalls past t)
    {site : CallSite}
    {s : RouteStep}
    (hOther : s ≠ .findKey site) :
    t.cache.lookup site =
      if .findKey site ∈ past ++ [s] then
        some
          (RouteStep.attached? site
            (untilAsked site (past ++ [s])))
      else none := by
  rw [h.kept site]
  by_cases hAsked : .findKey site ∈ past
  · rw [untilAsked_append_of_mem hAsked,
      if_pos hAsked, if_pos (List.mem_append_left _ hAsked)]
  · have hNot : .findKey site ∉ past ++ [s] := by
      simpa [hAsked] using fun hSame => hOther hSame.symm
    rw [if_neg hAsked, if_neg hNot]

/- A key for a type. -/
theorem Recalls.annotateType
    (h : Recalls past t)
    (owner key : String) :
    Recalls (past ++ [.annotateType owner key])
      (t.annotateType owner key) where
  methods site := by
    rw [lastOf_concat]
    exact h.methods site
  types other := by
    rw [lastOf_concat, ← h.types other]
    by_cases hSame : other = owner
    · simp [RouteTable.annotateType, typeKey?, hSame]
    · have hNe : (other == owner) = false := by simpa using hSame
      simp [RouteTable.annotateType, typeKey?, hSame,
        List.lookup_cons, hNe]
  kept site := h.kept_concat (by simp)

/- A key for a method. -/
theorem Recalls.annotateMethod
    (h : Recalls past t)
    (site : CallSite)
    (key : String) :
    Recalls (past ++ [.annotateMethod site key])
      (t.annotateMethod site key) where
  methods other := by
    rw [lastOf_concat, ← h.methods other]
    by_cases hSame : other = site
    · simp [RouteTable.annotateMethod, methodKey?, hSame]
    · have hNe : (other == site) = false := by simpa using hSame
      simp [RouteTable.annotateMethod, methodKey?, hSame,
        List.lookup_cons, hNe]
  types owner := by
    rw [lastOf_concat]
    exact h.types owner
  kept other := h.kept_concat (by simp)

/- A lookup keeps its answer, and the others stay. -/
theorem Recalls.findKey
    (h : Recalls past t)
    (site : CallSite) :
    Recalls (past ++ [.findKey site]) (t.findKey site).2 where
  methods other := by
    rw [methodKeys_findKey, lastOf_concat]
    exact h.methods other
  types owner := by
    rw [typeKeys_findKey, lastOf_concat]
    exact h.types owner
  kept other := by
    rw [lookup_cache_findKey]
    by_cases hSame : other = site
    · subst hSame
      rw [if_pos rfl, h.findKey_fst, untilAsked_concat_self]
      simp
    · rw [if_neg hSame]
      exact
        h.kept_concat (by simpa using fun hSite => hSame hSite.symm)

/- A step makes the past longer. -/
theorem Recalls.step
    (h : Recalls past t)
    (s : RouteStep) : Recalls (past ++ [s]) (s.apply t) := by
  cases s with
  | annotateType owner key => exact h.annotateType owner key
  | annotateMethod site key => exact h.annotateMethod site key
  | findKey site => exact h.findKey site

/- A run makes the past longer by its steps. -/
theorem Recalls.run
    (h : Recalls past t)
    (steps : List RouteStep) :
    Recalls (past ++ steps) (RouteStep.run steps t) := by
  induction steps generalizing past t with
  | nil => simpa [RouteStep.run] using h
  | cons s rest ih =>
      have hRest := ih (h.step s)
      rwa [List.append_assoc] at hRest

/- A run on a table without a past. -/
theorem recalls_run (steps : List RouteStep) :
    Recalls steps (RouteStep.run steps RouteTable.empty) :=
  Recalls.start.run steps

/-
  What lookups are answered at any moment of a run of
  attachments and lookups on one table.  A call is answered by
  what was attached to it before its first lookup, so lookups of
  other calls count for nothing; this is what is attached to it
  by now when nothing was attached to it in between.
-/
theorem lookup_keeps_first_answer
    (past : List RouteStep)
    (site : CallSite) :
    ((RouteStep.run past .empty).findKey site).1 =
        RouteStep.attached? site (untilAsked site past) ∧
      (∀ other,
        ((RouteStep.run (past ++ [.findKey other]) .empty).findKey
            site).1 =
          ((RouteStep.run past .empty).findKey site).1) ∧
      ((∀ s ∈ sinceAsked site past, s.attachesTo site = false) →
        ((RouteStep.run past .empty).findKey site).1 =
          RouteStep.attached? site past) := by
  have hAnswer := (recalls_run past).findKey_fst site
  refine ⟨hAnswer, ?_, ?_⟩
  · intro other
    have hRun :
        RouteStep.run (past ++ [.findKey other]) .empty =
          ((RouteStep.run past .empty).findKey other).2 := by
      rw [RouteStep.run, List.foldl_append]
      rfl
    rw [hRun, findKey_findKey]
  · intro hNothing
    have hSame :
        RouteStep.attached? site
            (untilAsked site past ++ sinceAsked site past) =
          RouteStep.attached? site (untilAsked site past) :=
      attached?_append_of_not hNothing
    rw [untilAsked_append_sinceAsked] at hSame
    rw [hAnswer, hSame]

/-
  A run in which a type gets a key and a call of it is looked
  up; then another type and one of its methods get keys.
-/
def sampleSteps : List RouteStep :=
  [.annotateType "Archive" "cold",
    .findKey ⟨"Archive", "store"⟩,
    .annotateType "Report" "reports",
    .annotateMethod ⟨"Report", "export"⟩ "s3b"]

/- Calls of the sample, one of them looked up beforehand. -/
theorem sampleSteps_lookups :
    (∀ s ∈ sinceAsked ⟨"Archive", "store"⟩ sampleSteps,
        s.attachesTo ⟨"Archive", "store"⟩ = false) ∧
      ((RouteStep.run sampleSteps .empty).findKey
        ⟨"Archive", "store"⟩).1 = some "cold" ∧
      (∀ s ∈ sinceAsked ⟨"Report", "export"⟩ sampleSteps,
        s.attachesTo ⟨"Report", "export"⟩ = false) ∧
      ((RouteStep.run sampleSteps .empty).findKey
        ⟨"Report", "export"⟩).1 = some "s3b" := by
  have hStored :
      ∀ s ∈ sinceAsked ⟨"Archive", "store"⟩ sampleSteps,
        s.attachesTo ⟨"Archive", "store"⟩ = false := by
    decide
  have hExported :
      ∀ s ∈ sinceAsked ⟨"Report", "export"⟩ sampleSteps,
        s.attachesTo ⟨"Report", "export"⟩ = false := by
    decide
  refine ⟨hStored, ?_, hExported, ?_⟩
  · rw [(lookup_keeps_first_answer sampleSteps
      ⟨"Archive", "store"⟩).2.2 hStored]
    rfl
  · rw [(lookup_keeps_first_answer sampleSteps
      ⟨"Report", "export"⟩).2.2 hExported]
    rfl

/-
  It is not so that every lookup finds what is attached by then:
  a call that was looked up in vain stays without a key when its
  type gets one.
-/
theorem not_answered_as_attached :
    ¬ ∀ (past : List RouteStep) (site : CallSite),
        ((RouteStep.run past .empty).findKey site).1 =
          RouteStep.attached? site past := by
  intro hAll
  have hSame :=
    hAll
      [.findKey ⟨"Archive", "store"⟩,
        .annotateType "Archive" "cold"]
      ⟨"Archive", "store"⟩
  exact absurd hSame (by decide)

end RouteTable

end StorageRouting
