import Mathlib.Data.List.Chain
import Mathlib.Data.List.DropRight
import Mathlib.Data.List.Infix
import StorageRouting.Proofs.Registry.Lifecycle

/-
  What somebody gets to know who listens to a registry: the
  events, replayed since the latest shutdown, tell which
  backends there are.

  Key definitions include:
    * `RegistryNotice`
    * `RegistryNotice.lastKind?`
    * `EventKind.Alternate`
    * `RegistryOperation.account`
    * `Registry.Announced`

  Main statements:
    * `Registry.Announced.event`
    * `RegistryOperation.announced_apply`
    * `RegistryOperation.announced_run`
    * `RegistryOperation.run_announces_backends`
-/

------------------------------------------------------------
-- Notices
------------------------------------------------------------

namespace StorageRouting

/- Something to be noticed of a registry. -/
inductive RegistryNotice where
| event (e : RegistryEvent) : RegistryNotice
| shutdown : RegistryNotice
deriving DecidableEq

namespace RegistryNotice

/- The event of a notice, if it is one. -/
def event? : RegistryNotice → Option RegistryEvent
| .event e => some e
| .shutdown => none

/- What happened to the backend of a name. -/
def kindOf?
    (name : String)
    (n : RegistryNotice) : Option EventKind :=
  (n.event?.filter (·.backend = name)).map (·.kind)

/- What happened to the backend of a name, in order. -/
def kindsOf
    (name : String)
    (notices : List RegistryNotice) : List EventKind :=
  notices.filterMap (kindOf? name)

/- The notices since the latest shutdown. -/
def sinceShutdown
    (notices : List RegistryNotice) : List RegistryNotice :=
  notices.rtakeWhile (fun n => n ≠ .shutdown)

/- What happened last to the backend of a name. -/
def lastKind?
    (name : String)
    (notices : List RegistryNotice) : Option EventKind :=
  (kindsOf name (sinceShutdown notices)).getLast?

/- After one more event it is one of those to be replayed. -/
theorem sinceShutdown_event
    (notices : List RegistryNotice)
    (e : RegistryEvent) :
    sinceShutdown (notices ++ [.event e]) =
      sinceShutdown notices ++ [.event e] := by
  simp [sinceShutdown]

/- After a shutdown there is nothing to be replayed. -/
theorem sinceShutdown_shutdown
    (notices : List RegistryNotice) :
    sinceShutdown (notices ++ [.shutdown]) = [] := by
  simp [sinceShutdown]

/- What happened to the backend of a name after one more event. -/
theorem kindsOf_event
    (name : String)
    (notices : List RegistryNotice)
    (e : RegistryEvent) :
    kindsOf name (notices ++ [.event e]) =
      kindsOf name notices ++
        if e.backend = name then [e.kind] else [] := by
  by_cases h : e.backend = name <;>
    simp [kindsOf, kindOf?, event?, Option.filter, h]

/-
  What comes after the start or a shutdown, up to the next one,
  is what is to be replayed at its end.
-/
theorem sinceShutdown_segment
    {before segment : List RegistryNotice}
    (hBefore :
      before = [] ∨ ∃ earlier, before = earlier ++ [.shutdown])
    (hSegment : .shutdown ∉ segment) :
    sinceShutdown (before ++ segment) = segment := by
  induction segment using List.reverseRecOn with
  | nil =>
      rcases hBefore with rfl | ⟨earlier, rfl⟩
      · rfl
      · simpa using sinceShutdown_shutdown earlier
  | append_singleton segment n ih =>
      simp only [List.mem_append, List.mem_singleton, not_or]
        at hSegment
      cases n with
      | event e =>
          rw [← List.append_assoc, sinceShutdown_event,
            ih hSegment.1]
      | shutdown => exact absurd rfl hSegment.2

end RegistryNotice

/-
  To be added and to be removed alternate, beginning with to
  be added, as if after a removal.
-/
def EventKind.Alternate (kinds : List EventKind) : Prop :=
  (EventKind.removed :: kinds).IsChain (· ≠ ·)

instance (kinds : List EventKind) :
    Decidable (EventKind.Alternate kinds) :=
  inferInstanceAs
    (Decidable ((EventKind.removed :: kinds).IsChain (· ≠ ·)))

/- Alternation goes on with what did not happen last. -/
theorem EventKind.Alternate.concat
    {kinds : List EventKind}
    {kind : EventKind}
    (h : Alternate kinds)
    (hNew : kinds.getLast? = some .added ↔ kind = .removed) :
    Alternate (kinds ++ [kind]) := by
  unfold Alternate at h ⊢
  rw [← List.cons_append, List.isChain_append]
  refine ⟨h, List.isChain_singleton kind, ?_⟩
  intro last hLast next hNext
  cases hNext
  rintro rfl
  have hSame : kinds.getLast?.getD .removed = last := by
    simpa [List.getLast?_cons] using hLast
  cases hKinds : kinds.getLast? with
  | none =>
      rw [hKinds] at hSame hNew
      cases hSame
      simp at hNew
  | some k =>
      rw [hKinds] at hSame hNew
      cases hSame
      cases k <;> simp at hNew

/- Twice added or removed too early is no alternation. -/
example :
    EventKind.Alternate [.added, .removed, .added] ∧
      ¬ EventKind.Alternate [.added, .added] ∧
      ¬ EventKind.Alternate [.removed] := by
  decide

end StorageRouting

------------------------------------------------------------
-- Accounts
------------------------------------------------------------

namespace StorageRouting

namespace RegistryOperation

variable {A σ : Type}

/- The events that an operation adds to those of a listener. -/
def told
    (close : Registry.Close A σ)
    (r : Registry A)
    (s : σ)
    (op : RegistryOperation A σ) : List RegistryEvent :=
  (op.apply close r s).1.collectEvents.1.drop
    r.collectEvents.1.length

/- Whether an operation shuts the registry down. -/
def shutsDown : RegistryOperation A σ → Bool
| .shutdown => true
| _ => false

/- What is to be noticed of an operation. -/
def notices
    (close : Registry.Close A σ)
    (r : Registry A)
    (s : σ)
    (op : RegistryOperation A σ) : List RegistryNotice :=
  (op.told close r s).map .event ++
    if op.shutsDown then [.shutdown] else []

/- What is to be noticed of a run, oldest first. -/
def account
    (close : Registry.Close A σ) :
    List (RegistryOperation A σ) →
      Registry A × σ → List RegistryNotice
| [], _ => []
| op :: ops, x =>
    op.notices close x.1 x.2 ++
      account close ops (op.apply close x.1 x.2)

/- What an operation told, given the events in the end. -/
theorem told_of_events
    {close : Registry.Close A σ}
    {r : Registry A}
    {s : σ}
    {op : RegistryOperation A σ}
    {heard more : List RegistryEvent}
    (hBefore : r.events = some heard)
    (hAfter :
      (op.apply close r s).1.events = some (heard ++ more)) :
    op.told close r s = more := by
  simp [told, Registry.collectEvents, hBefore, hAfter]

end RegistryOperation

end StorageRouting

------------------------------------------------------------
-- Announced Registries
------------------------------------------------------------

namespace StorageRouting

namespace Registry

variable {A σ : Type}

/-
  Somebody listened to a registry and heard the events of the
  notices.  The backends are those that were added last, and at
  each moment to be added and to be removed had alternated
  since the shutdown before.
-/
structure Announced
    (notices : List RegistryNotice)
    (r : Registry A) : Prop where
  heard : r.events = some (notices.filterMap RegistryNotice.event?)
  standing :
    ∀ name,
      (r.get? name).isSome = true ↔
        RegistryNotice.lastKind? name notices = some .added
  alternate :
    ∀ before name, before <+: notices →
      EventKind.Alternate
        (RegistryNotice.kindsOf name
          (RegistryNotice.sinceShutdown before))

/- A registry without backends of which nothing was noticed. -/
theorem Announced.start
    (primary : String)
    (strict : Bool) :
    Announced [] (new (A := A) primary strict).listening where
  heard := rfl
  standing name := by
    simp [listening, new, get?, Dictionary.get?_empty,
      RegistryNotice.lastKind?, RegistryNotice.kindsOf,
      RegistryNotice.sinceShutdown]
  alternate before name hBefore := by
    rw [List.prefix_nil.mp hBefore]
    exact List.isChain_singleton _

/- Nothing was noticed, and the same backends are there. -/
theorem Announced.congr
    {notices : List RegistryNotice}
    {r r' : Registry A}
    (h : Announced notices r)
    (hEvents : r'.events = r.events)
    (hLookup : ∀ name, r'.get? name = r.get? name) :
    Announced notices r' where
  heard := hEvents.trans h.heard
  standing name := by
    rw [hLookup]
    exact h.standing name
  alternate := h.alternate

/-
  One more event: a backend was added where there was none, or
  removed where there was one.
-/
theorem Announced.event
    {notices : List RegistryNotice}
    {r r' : Registry A}
    {e : RegistryEvent}
    (h : Announced notices r)
    (hEvents : r'.events = r.events.map (· ++ [e]))
    (hBefore :
      (r.get? e.backend).isSome = true ↔ e.kind = .removed)
    (hAfter :
      (r'.get? e.backend).isSome = true ↔ e.kind = .added)
    (hOthers :
      ∀ name, name ≠ e.backend → r'.get? name = r.get? name) :
    Announced (notices ++ [.event e]) r' where
  heard := by
    rw [hEvents, h.heard]
    simp [RegistryNotice.event?]
  standing name := by
    unfold RegistryNotice.lastKind?
    rw [RegistryNotice.sinceShutdown_event,
      RegistryNotice.kindsOf_event]
    by_cases hName : e.backend = name
    · subst hName
      simpa using hAfter
    · rw [hOthers name (Ne.symm hName), if_neg hName,
        List.append_nil]
      exact h.standing name
  alternate before name hMoment := by
    rcases List.prefix_concat_iff.mp hMoment with rfl | hOld
    · rw [RegistryNotice.sinceShutdown_event,
        RegistryNotice.kindsOf_event]
      have hSoFar :=
        h.alternate notices name (List.prefix_refl notices)
      by_cases hName : e.backend = name
      · subst hName
        rw [if_pos rfl]
        apply hSoFar.concat
        rw [← hBefore, h.standing]
        rfl
      · rw [if_neg hName, List.append_nil]
        exact hSoFar
    · exact h.alternate before name hOld

/- A shutdown is noticed, and no backend is left. -/
theorem Announced.shutdown
    {notices : List RegistryNotice}
    {r r' : Registry A}
    (h : Announced notices r)
    (hEvents : r'.events = r.events)
    (hNone : ∀ name, r'.get? name = none) :
    Announced (notices ++ [.shutdown]) r' where
  heard := by
    rw [hEvents, h.heard]
    simp [RegistryNotice.event?]
  standing name := by
    unfold RegistryNotice.lastKind?
    rw [RegistryNotice.sinceShutdown_shutdown, hNone]
    simp [RegistryNotice.kindsOf]
  alternate before name hMoment := by
    rcases List.prefix_concat_iff.mp hMoment with rfl | hOld
    · rw [RegistryNotice.sinceShutdown_shutdown]
      exact List.isChain_singleton _
    · exact h.alternate before name hOld

end Registry

end StorageRouting

------------------------------------------------------------
-- What Operations Tell
------------------------------------------------------------

namespace StorageRouting

namespace Registry

variable {A σ : Type}

/- A registration tells of a backend exactly if it is added. -/
theorem events_register
    (r : Registry A)
    (name : String)
    (a : A) :
    (r.register name a).2.events =
      r.events.map
        (· ++
          if (r.register name a).1 then
            [⟨name, .added⟩]
          else []) := by
  rcases r.register_cases name a with ⟨_, hEq⟩ | ⟨_, hEq⟩
  · simp [hEq]
  · simp [hEq, publish]

/-
  A removal tells of a backend exactly if one was removed,
  whatever came of closing it.
-/
theorem events_unregister
    (close : Close A σ)
    (r : Registry A)
    (name : String)
    (s : σ) :
    (r.unregister close name s).registry.events =
      r.events.map
        (· ++
          if (r.unregister close name s).answer = .ok true then
            [⟨name, .removed⟩]
          else []) := by
  rcases r.unregister_cases close name s with
    ⟨e, _, hEq⟩ | ⟨_, _, hEq⟩ | ⟨a, _, _, hEq⟩
  · simp [hEq]
  · simp [hEq]
  · simp [hEq, publish, without]

/- A registration is announced. -/
theorem Announced.register
    {notices : List RegistryNotice}
    {r : Registry A}
    (h : Announced notices r)
    (name : String)
    (a : A) :
    ∃ more,
      (r.register name a).2.events = r.events.map (· ++ more) ∧
      Announced (notices ++ more.map .event)
        (r.register name a).2 := by
  rcases r.register_cases name a with
    ⟨_, hEq⟩ | ⟨hFree, hEq⟩
  · exact ⟨[], by simp [hEq], by simpa [hEq] using h⟩
  · refine ⟨[⟨name, .added⟩], by simp [hEq, publish], ?_⟩
    apply h.event
    · simp [hEq, publish]
    · simp [hFree]
    · simp [get?_register]
    · intro other hOther
      simp [get?_register, hOther]

/- Registrations in order are announced. -/
theorem Announced.registerAll
    {notices : List RegistryNotice}
    {r : Registry A}
    (h : Announced notices r)
    (named : List (String × A)) :
    ∃ more,
      (registerAll named r).2.events = r.events.map (· ++ more) ∧
      Announced (notices ++ more.map .event)
        (registerAll named r).2 := by
  induction named generalizing notices r with
  | nil =>
      exact
        ⟨[], by simp [Registry.registerAll],
          by simpa [Registry.registerAll] using h⟩
  | cons e rest ih =>
      rcases h.register e.1 e.2 with ⟨more, hMore, hFirst⟩
      rcases ih hFirst with ⟨later, hLater, hRest⟩
      refine ⟨more ++ later, ?_, ?_⟩
      · simp only [Registry.registerAll, hLater, hMore]
        cases r.events <;> simp
      · simpa [Registry.registerAll] using hRest

/- A removal is announced. -/
theorem Announced.unregister
    {notices : List RegistryNotice}
    {r : Registry A}
    (h : Announced notices r)
    (close : Close A σ)
    (name : String)
    (s : σ) :
    ∃ more,
      (r.unregister close name s).registry.events =
        r.events.map (· ++ more) ∧
      Announced (notices ++ more.map .event)
        (r.unregister close name s).registry := by
  rcases r.unregister_cases close name s with
    ⟨e, _, hEq⟩ | ⟨_, _, hEq⟩ | ⟨a, _, hFound, hEq⟩
  · exact ⟨[], by simp [hEq], by simpa [hEq] using h⟩
  · exact ⟨[], by simp [hEq], by simpa [hEq] using h⟩
  · refine
      ⟨[⟨name, .removed⟩], by simp [hEq, publish, without], ?_⟩
    apply h.event
    · simp [hEq, publish, without]
    · simp [hFound]
    · simp [hEq, get?_without]
    · intro other hOther
      simp [hEq, get?_without, hOther]

end Registry

namespace RegistryOperation

variable {A σ : Type}

/-
  An operation that is no shutdown is announced by the events
  that it adds.
-/
theorem announced_of_told
    {close : Registry.Close A σ}
    {notices : List RegistryNotice}
    {r : Registry A}
    {s : σ}
    {op : RegistryOperation A σ}
    (h : Registry.Announced notices r)
    (hStays : op.shutsDown = false)
    (hTold :
      ∃ more,
        (op.apply close r s).1.events =
          r.events.map (· ++ more) ∧
        Registry.Announced (notices ++ more.map .event)
          (op.apply close r s).1) :
    Registry.Announced (notices ++ op.notices close r s)
      (op.apply close r s).1 := by
  rcases hTold with ⟨more, hMore, hAnnounced⟩
  rw [h.heard, Option.map_some] at hMore
  rw [RegistryOperation.notices, told_of_events h.heard hMore,
    hStays]
  simpa using hAnnounced

/- An operation is announced by what is to be noticed of it. -/
theorem announced_apply
    (close : Registry.Close A σ)
    {notices : List RegistryNotice}
    {r : Registry A}
    (h : Registry.Announced notices r)
    (s : σ)
    (op : RegistryOperation A σ) :
    Registry.Announced (notices ++ op.notices close r s)
      (op.apply close r s).1 := by
  cases op with
  | register name a =>
      exact announced_of_told h rfl (h.register name a)
  | unregister name =>
      exact announced_of_told h rfl (h.unregister close name s)
  | populate chain configs =>
      apply announced_of_told h rfl
      simp only [apply, Registry.populate_registry]
      exact h.registerAll _
  | setStrict strict =>
      apply announced_of_told h rfl
      refine ⟨[], by simp [apply, Registry.setStrict], ?_⟩
      rw [List.map_nil, List.append_nil]
      exact h.congr rfl (fun _ => rfl)
  | shutdown =>
      have hAfter :
          (apply close r s .shutdown).1.events =
            some (notices.filterMap RegistryNotice.event? ++ []) := by
        rw [List.append_nil]
        exact h.heard
      have hNotices :
          RegistryOperation.notices close r s .shutdown =
            [.shutdown] := by
        rw [RegistryOperation.notices,
          told_of_events h.heard hAfter]
        rfl
      rw [hNotices]
      exact h.shutdown rfl (fun name => Dictionary.get?_empty name)

/- A run is announced by its account. -/
theorem announced_run
    (close : Registry.Close A σ)
    (ops : List (RegistryOperation A σ))
    {notices : List RegistryNotice}
    {x : Registry A × σ}
    (h : Registry.Announced notices x.1) :
    Registry.Announced (notices ++ account close ops x)
      (run close ops x).1 := by
  induction ops generalizing notices x with
  | nil => simpa [account, run] using h
  | cons op ops ih =>
      have hRest := ih (announced_apply close h x.2 op)
      simpa [account, run] using hRest

end RegistryOperation

end StorageRouting

------------------------------------------------------------
-- Replay
------------------------------------------------------------

namespace StorageRouting

namespace RegistryOperation

variable {A σ : Type}

/-
  Somebody listens to a registry from the start.  After any run
  the backends are those whose last event since the latest
  shutdown was to be added, and between two shutdowns the
  events of each name alternate, beginning with to be added.
  Nothing is told by a registration that is refused, by a
  removal that fails or finds nothing, by a change of
  strictness and by a shutdown; a lookup does not even have a
  registry to answer with.  A backend that is removed is told
  of, whatever comes of closing it.
-/
theorem run_announces_backends
    (close : Registry.Close A σ)
    (primary : String)
    (strict : Bool)
    (s : σ)
    (ops : List (RegistryOperation A σ)) :
    let first : Registry A := (Registry.new primary strict).listening
    let last := (run close ops (first, s)).1
    let notices := account close ops (first, s)
    last.events = some (notices.filterMap RegistryNotice.event?) ∧
      (∀ name,
        name ∈ last.backends ↔
          RegistryNotice.lastKind? name notices = some .added) ∧
      (∀ before segment after name,
        notices = before ++ segment ++ after →
        (before = [] ∨
          ∃ earlier, before = earlier ++ [.shutdown]) →
        .shutdown ∉ segment →
          EventKind.Alternate (RegistryNotice.kindsOf name segment)) ∧
      (∀ name a,
        (last.register name a).1 = false →
          (last.register name a).2.events = last.events) ∧
      (∀ name s,
        (last.unregister close name s).answer ≠ .ok true →
          (last.unregister close name s).registry.events =
            last.events) ∧
      (∀ strict, (last.setStrict strict).events = last.events) ∧
      (∀ s,
        (last.shutdown close s).registry.events = last.events) ∧
      (∀ name a s,
        last.removalRefusal? name = none →
        last.get? name = some a →
          (last.unregister close name s).answer = .ok true ∧
            (last.unregister close name s).registry.events =
              last.events.map (· ++ [⟨name, .removed⟩])) := by
  intro first last notices
  have hAnnounced : Registry.Announced notices last := by
    have hRun :=
      announced_run close ops (x := (first, s))
        (Registry.Announced.start primary strict)
    simpa using hRun
  refine
    ⟨hAnnounced.heard, ?_, ?_, ?_, ?_, fun _ => rfl, fun _ => rfl,
      ?_⟩
  · intro name
    rw [← hAnnounced.standing]
    exact Dictionary.mem_keys_iff
  · intro before segment after name hSplit hBefore hSegment
    have hMoment :=
      hAnnounced.alternate (before ++ segment) name
        ⟨after, hSplit.symm⟩
    rwa [RegistryNotice.sinceShutdown_segment hBefore hSegment]
      at hMoment
  · intro name a hRefused
    simp [Registry.events_register, hRefused]
  · intro name s hFailed
    simp [Registry.events_unregister, hFailed]
  · intro name a s hAllowed hFound
    have hAnswer :
        (last.unregister close name s).answer = .ok true := by
      rcases last.unregister_cases close name s with
        ⟨e, hRefused, _⟩ | ⟨_, hNone, _⟩ | ⟨b, _, _, hEq⟩
      · simp [hAllowed] at hRefused
      · simp [hFound] at hNone
      · rw [hEq]
    refine ⟨hAnswer, ?_⟩
    rw [Registry.events_unregister, hAnswer, if_pos rfl]

/-
  In the mixed run only the primary name is left, and its
  events before the shutdown alternate.  The backend that stood
  there first is told to be removed although it does not close.
-/
theorem mixedRun_announces_backends :
    let first : Registry Nat := (Registry.new "p" false).listening
    let last := (run Custody.oddStubborn Custody.mixedRun (first, 10)).1
    let early :=
      (run Custody.oddStubborn (Custody.mixedRun.take 3)
        (first, 10)).1
    account Custody.oddStubborn Custody.mixedRun (first, 10) =
        [.event ⟨"p", .added⟩, .event ⟨"b", .added⟩,
          .event ⟨"p", .removed⟩, .event ⟨"p", .added⟩,
          .shutdown, .event ⟨"p", .added⟩] ∧
      "p" ∈ last.backends ∧
      "b" ∉ last.backends ∧
      EventKind.Alternate [.added, .removed, .added] ∧
      (last.unregister Custody.oddStubborn "p" 10).registry.events =
        last.events ∧
      (Custody.oddStubborn early 1 10).1 = .error (.general "stuck") ∧
      (early.unregister Custody.oddStubborn "p"
          10).registry.events =
        early.events.map (· ++ [⟨"p", .removed⟩]) := by
  intro first last early
  have hAccount :
      account Custody.oddStubborn Custody.mixedRun (first, 10) =
        [.event ⟨"p", .added⟩, .event ⟨"b", .added⟩,
          .event ⟨"p", .removed⟩, .event ⟨"p", .added⟩,
          .shutdown, .event ⟨"p", .added⟩] := by
    decide
  rcases run_announces_backends Custody.oddStubborn "p" false 10
      Custody.mixedRun with
    ⟨_, hBackends, hAlternate, _, hFailed, _, _, _⟩
  rcases run_announces_backends Custody.oddStubborn "p" false 10
      (Custody.mixedRun.take 3) with
    ⟨_, _, _, _, _, _, _, hRemoved⟩
  have hTold := hFailed "p" 10 (by decide)
  have hGone := hRemoved "p" 1 10 (by decide) (by decide)
  refine ⟨hAccount, ?_, ?_, ?_, ?_, rfl, ?_⟩
  · rw [hBackends, hAccount]
    decide
  · rw [hBackends, hAccount]
    decide
  · have hSegment :=
      hAlternate []
        [.event ⟨"p", .added⟩, .event ⟨"b", .added⟩,
          .event ⟨"p", .removed⟩, .event ⟨"p", .added⟩]
        [.shutdown, .event ⟨"p", .added⟩] "p"
        (by rw [hAccount]; rfl) (Or.inl rfl) (by decide)
    have hKinds :
        RegistryNotice.kindsOf "p"
            [.event ⟨"p", .added⟩, .event ⟨"b", .added⟩,
              .event ⟨"p", .removed⟩, .event ⟨"p", .added⟩] =
          [.added, .removed, .added] := by
      decide
    rwa [hKinds] at hSegment
  · simpa only [last, first] using hTold
  · simpa only [early, first] using hGone.2

end RegistryOperation

end StorageRouting
