import StorageRouting.Backend.Simulated
import StorageRouting.Proofs.Backend.ClientCall

/-
  What a client makes of the pages of any backend, however
  these come: it goes on from page to page by their tokens, and
  stops at the last page or at the first error.

  Key definitions include:
    * `ObjectStore.listEach`
    * `ObjectStore.Recites`
    * `ListWalk.Ends`
    * `ListWalk.Runs`
    * `ListWalk.Tells`
    * `ListWalk.Follows`

  Main statements:
    * `Adapter.scripted_recites`
    * `Adapter.scripted_notes`
    * `ListWalk.exists_runs`
    * `ListWalk.Follows.unique`
    * `ListWalk.Runs.drain?_eq`
    * `ListWalk.Runs.find?_eq_of_absent`
    * `ListWalk.Runs.find?_eq_of_present`
    * `StorageClient.paging_follows_script`
-/

------------------------------------------------------------
-- Scripts
------------------------------------------------------------

namespace StorageRouting

namespace ObjectStore

variable {σ : Type}

/- Send listing requests one after the other. -/
def listEach
    (store : ObjectStore σ)
    (bucket : String) :
    List ListOptions → σ → List (Except Error ListPage) × σ
| [], s => ([], s)
| options :: more, s =>
    let (answer, s) := store.list bucket options s
    let (answers, s) := listEach store bucket more s
    (answer :: answers, s)

/-
  From a state on, a store answers listing requests from a
  script, whatever they ask for, and with errors when the script
  is used up.
-/
def Recites
    (store : ObjectStore σ)
    (bucket : String)
    (script : Adapter.Script)
    (s : σ) : Prop :=
  ∀ requests, ∃ errors : List Error,
    (store.listEach bucket requests s).1 =
      script.take requests.length ++ errors.map .error

variable {store : ObjectStore σ} {bucket : String} {s s' : σ}
variable {answer : Except Error ListPage}

theorem listEach_cons
    {options : ListOptions}
    (h : store.list bucket options s = (answer, s'))
    (more : List ListOptions) :
    store.listEach bucket (options :: more) s =
      (answer :: (store.listEach bucket more s').1,
        (store.listEach bucket more s').2) := by
  rw [listEach, h]

namespace Recites

/- The next answer of a script is the first of it. -/
theorem list_of_cons
    {told : Except Error ListPage}
    {script : Adapter.Script}
    (h : store.Recites bucket (told :: script) s)
    {options : ListOptions}
    (hList : store.list bucket options s = (answer, s')) :
    answer = told ∧ store.Recites bucket script s' := by
  have hEach :
      ∀ more, ∃ errors : List Error,
        answer = told ∧
        (store.listEach bucket more s').1 =
          script.take more.length ++ errors.map .error := by
    intro more
    rcases h (options :: more) with ⟨errors, hErrors⟩
    rw [listEach_cons hList, List.length_cons, List.take_succ_cons,
      List.cons_append, List.cons.injEq] at hErrors
    exact ⟨errors, hErrors⟩
  rcases hEach [] with ⟨_, hAnswer, _⟩
  refine ⟨hAnswer, ?_⟩
  intro more
  rcases hEach more with ⟨errors, _, hErrors⟩
  exact ⟨errors, hErrors⟩

/- Behind the end of a script there are only errors. -/
theorem list_of_nil
    (h : store.Recites bucket [] s)
    {options : ListOptions}
    (hList : store.list bucket options s = (answer, s')) :
    ∃ e, answer = .error e := by
  rcases h [options] with ⟨errors, hErrors⟩
  rw [listEach_cons hList, List.take_nil, List.nil_append] at hErrors
  cases errors with
  | nil => cases hErrors
  | cons e errors =>
      rw [List.map_cons, List.cons.injEq] at hErrors
      exact ⟨e, hErrors.1⟩

end Recites

end ObjectStore

/- A scripted adapter recites its script. -/
theorem Adapter.scripted_recites
    {σ : Type}
    {script : Slot σ Script}
    {log : Slot σ (List ListOptions)}
    (hScript : ∀ pages s, script.get (script.set pages s) = pages)
    (hLog : ∀ noted s, script.get (log.set noted s) = script.get s)
    (a : Adapter σ)
    (bucket : String)
    (s : σ) :
    (scripted script log a).Recites bucket (script.get s) s := by
  intro requests
  induction requests generalizing s with
  | nil => exact ⟨[], rfl⟩
  | cons options more ih =>
      rcases hList :
          (scripted script log a).list bucket options s with
        ⟨answer, s'⟩
      have hNext :
          answer = (nextPage (script.get s)).1 ∧
          script.get s' = (nextPage (script.get s)).2 := by
        rw [scripted] at hList
        cases hList
        rw [hScript, hLog]
        exact ⟨rfl, rfl⟩
      rcases ih s' with ⟨errors, hErrors⟩
      rw [ObjectStore.listEach_cons hList, hErrors, hNext.1,
        hNext.2]
      cases script.get s with
      | nil =>
          exact ⟨.general "script exhausted" :: errors, by
            simp [nextPage]⟩
      | cons told rest => exact ⟨errors, rfl⟩

/- A scripted adapter notes all that it is asked for. -/
theorem Adapter.scripted_notes
    {σ : Type}
    {script : Slot σ Script}
    {log : Slot σ (List ListOptions)}
    (hLog : ∀ noted s, log.get (log.set noted s) = noted)
    (hScript : ∀ pages s, log.get (script.set pages s) = log.get s)
    (a : Adapter σ)
    (bucket : String)
    (requests : List ListOptions)
    (s : σ) :
    log.get ((scripted script log a).listEach bucket requests s).2 =
      log.get s ++ requests := by
  induction requests generalizing s with
  | nil => rw [ObjectStore.listEach, List.append_nil]
  | cons options more ih =>
      rcases hList :
          (scripted script log a).list bucket options s with
        ⟨answer, s'⟩
      have hNoted : log.get s' = log.get s ++ [options] := by
        rw [scripted] at hList
        cases hList
        rw [hScript, hLog]
      rw [ObjectStore.listEach_cons hList, ih, hNoted,
        List.append_assoc, List.singleton_append]

end StorageRouting

------------------------------------------------------------
-- Runs of a Walk
------------------------------------------------------------

namespace StorageRouting

namespace ListWalk

variable {σ : Type}

/-
  What a walk ends with, by the last answer that it is given: the
  page, if it is not truncated; a failure of its own, if the
  page tells that there is more and not where; or the error.
-/
inductive Ends
    (bucket : String) :
    Except Error ListPage → Except Error ListPage → Prop where
| complete
    {page : ListPage}
    (hLast : page.truncated = false) :
    Ends bucket (.ok page) (.ok page)
| brokenOff
    {page : ListPage}
    (hMore : page.truncated = true)
    (hNowhere : page.token = none) :
    Ends bucket (.ok page) (.error (ListWalk.brokenOff bucket))
| refused {e : Error} : Ends bucket (.error e) (.error e)

/-
  A run of a walk, request by request: the pages that it goes
  on from, and what it ends with.
-/
inductive Runs
    (store : ObjectStore σ)
    (bucket : String) :
    ListOptions → σ → List ListPage →
      Except Error ListPage → σ → Prop where
| ends
    {options : ListOptions}
    {s s' : σ}
    {answer final : Except Error ListPage}
    (hList : store.list bucket options s = (answer, s'))
    (hEnds : Ends bucket answer final) :
    Runs store bucket options s [] final s'
| goesOn
    {options : ListOptions}
    {s s₁ s' : σ}
    {page : ListPage}
    {token : String}
    {pages : List ListPage}
    {final : Except Error ListPage}
    (hList : store.list bucket options s = (.ok page, s₁))
    (hMore : page.truncated = true)
    (hToken : page.token = some token)
    (hRest :
      Runs store bucket { options with token := some token } s₁
        pages final s') :
    Runs store bucket options s (page :: pages) final s'

/- The requests of a run: each takes the token of a page. -/
def requests
    (options : ListOptions)
    (pages : List ListPage) : List ListOptions :=
  options ::
    pages.map (fun page => { options with token := page.token })

/- A page tells that there is more, and where. -/
def GoesOn (page : ListPage) : Prop :=
  page.truncated = true ∧ page.token.isSome = true

/-
  A script tells some pages and then an answer, which is an
  error if the script holds no more than the pages.
-/
def Tells
    (script : Adapter.Script)
    (pages : List ListPage)
    (answer : Except Error ListPage) : Prop :=
  (∃ rest, script = pages.map .ok ++ answer :: rest) ∨
    script = pages.map .ok ∧ ∃ e, answer = .error e

/-
  A walk along a script: the pages that it goes on from are the
  first of the script, all truncated and with a token; the next
  answer is what it ends by; and the requests are the first one
  and one for each of these pages, and no others.
-/
structure Follows
    (store : ObjectStore σ)
    (bucket : String)
    (script : Adapter.Script)
    (options : ListOptions)
    (s : σ)
    (pages : List ListPage)
    (final : Except Error ListPage)
    (s' : σ) : Prop where
  goesOn : ∀ page ∈ pages, GoesOn page
  ends :
    ∃ answer,
      Ends bucket answer final ∧
      store.listEach bucket (requests options pages) s =
        (pages.map .ok ++ [answer], s') ∧
      Tells script pages answer

/- The pages that a walk yields. -/
def seen
    (pages : List ListPage)
    (final : Except Error ListPage) : List ListPage :=
  pages ++ final.toOption.toList

variable {store : ObjectStore σ} {bucket : String}
variable {options : ListOptions} {s s' : σ}
variable {pages : List ListPage} {final : Except Error ListPage}

/- A script that tells a page tells the rest behind it. -/
theorem Tells.of_cons
    {script : Adapter.Script}
    {page : ListPage}
    {answer : Except Error ListPage}
    (h : Tells script (page :: pages) answer) :
    ∃ rest, script = .ok page :: rest ∧ Tells rest pages answer := by
  rcases h with ⟨rest, hScript⟩ | ⟨hScript, hError⟩
  · exact ⟨_, hScript, Or.inl ⟨rest, rfl⟩⟩
  · exact ⟨_, hScript, Or.inr ⟨rfl, hError⟩⟩

/- A page stands before what the rest of a script tells. -/
theorem Tells.cons
    {script : Adapter.Script}
    {answer : Except Error ListPage}
    (h : Tells script pages answer)
    (page : ListPage) :
    Tells (.ok page :: script) (page :: pages) answer := by
  rcases h with ⟨rest, hScript⟩ | ⟨hScript, hError⟩
  · refine Or.inl ⟨rest, ?_⟩
    rw [hScript, List.map_cons, List.cons_append]
  · refine Or.inr ⟨?_, hError⟩
    rw [hScript, List.map_cons]

/- What is told before any page is the first of the script. -/
theorem Tells.answer_eq
    {told answer : Except Error ListPage}
    {rest : Adapter.Script}
    (h : Tells (told :: rest) [] answer) : answer = told := by
  rcases h with ⟨later, hScript⟩ | ⟨hScript, _⟩
  · exact (List.cons.inj hScript).1.symm
  · cases hScript

theorem requests_cons
    {page : ListPage}
    {token : String}
    (h : page.token = some token) :
    requests options (page :: pages) =
      options ::
        requests { options with token := some token } pages := by
  rw [requests, requests, List.map_cons, h]

/- A page tells where to go on, or the walk ends there. -/
theorem page_cases
    (bucket : String)
    (page : ListPage) :
    (∃ token, page.truncated = true ∧ page.token = some token) ∨
      ∃ final, Ends bucket (.ok page) final := by
  cases hMore : page.truncated with
  | false => exact Or.inr ⟨_, .complete hMore⟩
  | true =>
      cases hToken : page.token with
      | none => exact Or.inr ⟨_, .brokenOff hMore hToken⟩
      | some token => exact Or.inl ⟨token, rfl, rfl⟩

/- Along a script a walk comes to an end. -/
theorem exists_runs
    {script : Adapter.Script}
    (h : store.Recites bucket script s)
    (options : ListOptions) :
    ∃ pages final s', Runs store bucket options s pages final s' := by
  induction script generalizing s options with
  | nil =>
      rcases hList : store.list bucket options s with ⟨answer, s'⟩
      rcases h.list_of_nil hList with ⟨e, rfl⟩
      exact ⟨[], .error e, s', .ends hList .refused⟩
  | cons told script ih =>
      rcases hList : store.list bucket options s with ⟨answer, s'⟩
      rcases h.list_of_cons hList with ⟨rfl, hLater⟩
      cases answer with
      | error e => exact ⟨[], .error e, s', .ends hList .refused⟩
      | ok page =>
          rcases page_cases bucket page with
            ⟨token, hMore, hToken⟩ | ⟨final, hEnds⟩
          · rcases ih hLater { options with token := some token } with
              ⟨pages, final, s'', hRuns⟩
            exact
              ⟨page :: pages, final, s'',
                .goesOn hList hMore hToken hRuns⟩
          · exact ⟨[], final, s', .ends hList hEnds⟩

/- Only one answer is left of a script behind these pages. -/
theorem Follows.of_ends
    {script : Adapter.Script}
    (h : store.Recites bucket script s)
    {answer : Except Error ListPage}
    (hList : store.list bucket options s = (answer, s'))
    (hEnds : Ends bucket answer final) :
    Follows store bucket script options s [] final s' := by
  refine
    ⟨by simp, answer, hEnds, ObjectStore.listEach_cons hList [], ?_⟩
  cases script with
  | nil => exact Or.inr ⟨rfl, h.list_of_nil hList⟩
  | cons told rest =>
      rcases h.list_of_cons hList with ⟨rfl, _⟩
      exact Or.inl ⟨rest, rfl⟩

/- A page that goes on stands before all that follow. -/
theorem Follows.of_goesOn
    {script : Adapter.Script}
    (h : store.Recites bucket script s)
    {page : ListPage}
    {token : String}
    {s₁ : σ}
    (hList : store.list bucket options s = (.ok page, s₁))
    (hMore : page.truncated = true)
    (hToken : page.token = some token)
    (hRest :
      ∀ rest,
        store.Recites bucket rest s₁ →
        Follows store bucket rest
          { options with token := some token } s₁ pages final s') :
    Follows store bucket script options s (page :: pages) final
      s' := by
  cases script with
  | nil =>
      rcases h.list_of_nil hList with ⟨e, hError⟩
      cases hError
  | cons told rest =>
      rcases h.list_of_cons hList with ⟨rfl, hLater⟩
      rcases hRest rest hLater with
        ⟨hGoesOn, answer, hEnds, hAsked, hTells⟩
      refine ⟨?_, answer, hEnds, ?_, hTells.cons page⟩
      · intro other hOther
        rcases List.mem_cons.mp hOther with rfl | hOther
        · exact ⟨hMore, Option.isSome_of_mem hToken⟩
        · exact hGoesOn other hOther
      · rw [requests_cons hToken, ObjectStore.listEach_cons hList,
          hAsked, List.map_cons, List.cons_append]

/- The run of a walk along a script follows it. -/
theorem Runs.follows
    {script : Adapter.Script}
    (h : Runs store bucket options s pages final s')
    (hRecites : store.Recites bucket script s) :
    Follows store bucket script options s pages final s' := by
  induction h generalizing script with
  | ends hList hEnds => exact Follows.of_ends hRecites hList hEnds
  | goesOn hList hMore hToken _ ih =>
      exact
        Follows.of_goesOn hRecites hList hMore hToken
          (fun _ hLater => ih hLater)

/- No walk ends with a page that tells where to go on. -/
theorem Ends.not_goesOn
    {page : ListPage}
    (h : Ends bucket (.ok page) final) :
    ¬ GoesOn page := by
  rintro ⟨hMore, hToken⟩
  cases h with
  | complete hLast =>
      rw [hLast] at hMore
      exact Bool.false_ne_true hMore
  | brokenOff _ hNowhere =>
      rw [hNowhere] at hToken
      exact Bool.false_ne_true hToken

/- What a walk ends with depends only on its last answer. -/
theorem Ends.unique
    {answer final' : Except Error ListPage}
    (h : Ends bucket answer final)
    (h' : Ends bucket answer final') : final' = final := by
  cases h with
  | complete hLast =>
      cases h' with
      | complete => rfl
      | brokenOff hMore => cases hLast.symm.trans hMore
  | brokenOff hMore =>
      cases h' with
      | complete hLast => cases hLast.symm.trans hMore
      | brokenOff => rfl
  | refused =>
      cases h' with
      | refused => rfl

/- One script tells one list of pages before a walk ends. -/
theorem pages_unique
    {script : Adapter.Script}
    {pages' : List ListPage}
    {answer answer' final' : Except Error ListPage}
    (hGoesOn : ∀ page ∈ pages, GoesOn page)
    (hGoesOn' : ∀ page ∈ pages', GoesOn page)
    (hEnds : Ends bucket answer final)
    (hEnds' : Ends bucket answer' final')
    (hTells : Tells script pages answer)
    (hTells' : Tells script pages' answer') : pages' = pages := by
  induction pages generalizing script pages' with
  | nil =>
      cases pages' with
      | nil => rfl
      | cons page more =>
          rcases hTells'.of_cons with ⟨rest, rfl, _⟩
          rw [hTells.answer_eq] at hEnds
          exact absurd (hGoesOn' page List.mem_cons_self)
            hEnds.not_goesOn
  | cons page pages ih =>
      rcases hTells.of_cons with ⟨rest, rfl, hRest⟩
      cases pages' with
      | nil =>
          rw [hTells'.answer_eq] at hEnds'
          exact absurd (hGoesOn page List.mem_cons_self)
            hEnds'.not_goesOn
      | cons page' more =>
          rcases hTells'.of_cons with ⟨rest', hSame, hRest'⟩
          rcases List.cons.inj hSame with ⟨hPage, rfl⟩
          have hMore : more = pages :=
            ih
              (fun other hOther =>
                hGoesOn other (List.mem_cons_of_mem page hOther))
              (fun other hOther =>
                hGoesOn' other (List.mem_cons_of_mem page' hOther))
              hRest hRest'
          rw [hMore, ← Except.ok.inj hPage]

/- There is only one walk along a script. -/
theorem Follows.unique
    {script : Adapter.Script}
    {pages' : List ListPage}
    {final' : Except Error ListPage}
    {s'' : σ}
    (h : Follows store bucket script options s pages final s')
    (h' : Follows store bucket script options s pages' final' s'') :
    pages' = pages ∧ final' = final ∧ s'' = s' := by
  rcases h with ⟨hGoesOn, answer, hEnds, hAsked, hTells⟩
  rcases h' with ⟨hGoesOn', answer', hEnds', hAsked', hTells'⟩
  have hPages : pages' = pages :=
    pages_unique hGoesOn hGoesOn' hEnds hEnds' hTells hTells'
  subst hPages
  rw [hAsked, Prod.mk.injEq, List.append_cancel_left_eq,
    List.cons.injEq] at hAsked'
  rcases hAsked' with ⟨⟨hAnswer, _⟩, hState⟩
  subst hAnswer
  exact ⟨rfl, hEnds.unique hEnds', hState.symm⟩

/- One step of a walk at its end. -/
theorem step_of_ends
    {answer : Except Error ListPage}
    (hList : store.list bucket options s = (answer, s'))
    (hEnds : Ends bucket answer final) :
    step store bucket (some options) s = (some final, none, s') := by
  cases hEnds with
  | complete hLast => simp only [step, hList, following, hLast]
  | brokenOff hMore hNowhere =>
      simp only [step, hList, following, hMore, hNowhere]
  | refused => simp only [step, hList]

/- One step of a walk that goes on. -/
theorem step_of_goesOn
    {page : ListPage}
    {token : String}
    (hList : store.list bucket options s = (.ok page, s'))
    (hMore : page.truncated = true)
    (hToken : page.token = some token) :
    step store bucket (some options) s =
      (some (.ok page), some { options with token := some token },
        s') := by
  simp only [step, hList, following, hMore, hToken]

variable {p : ObjectInfo → Bool}

/- Where no entry passes, none is found. -/
theorem find?_items_eq_none
    {items : List ObjectInfo}
    (h : ∀ info ∈ items, p info = false) : items.find? p = none := by
  rw [List.find?_eq_none]
  intro info hInfo
  rw [h info hInfo]
  exact Bool.false_ne_true

namespace Runs

/- A drained walk yields the pages of its run, and its end. -/
theorem drain?_eq
    (h : Runs store bucket options s pages final s') :
    drain? store bucket (some options) s =
      some (pages.map .ok ++ [final], s') := by
  induction h with
  | ends hList hEnds =>
      rw [drain?, step_of_ends hList hEnds]
      dsimp only
      rw [drain?]
      rfl
  | goesOn hList hMore hToken _ ih =>
      rw [drain?, step_of_goesOn hList hMore hToken]
      dsimp only
      rw [ih]
      rfl

/- A search without success comes to the end of the run. -/
theorem find?_eq_of_absent
    (h : Runs store bucket options s pages final s')
    (hAbsent :
      ∀ info ∈ (seen pages final).flatMap (·.items),
        p info = false) :
    find? store bucket p (some options) s =
      some (final.map (fun _ => none), s') := by
  induction h with
  | @ends _ _ _ _ final hList hEnds =>
      rw [find?, step_of_ends hList hEnds]
      cases final with
      | error e => rfl
      | ok page =>
          dsimp only
          rw [find?_items_eq_none (fun info hInfo =>
            hAbsent info (List.mem_append_left _ hInfo))]
          dsimp only
          rw [find?]
          rfl
  | goesOn hList hMore hToken _ ih =>
      rw [find?, step_of_goesOn hList hMore hToken]
      dsimp only
      rw [find?_items_eq_none (fun info hInfo =>
        hAbsent info (List.mem_append_left _ hInfo))]
      exact
        ih (fun info hInfo =>
          hAbsent info (List.mem_append_right _ hInfo))

/- A search ends at the page of the first entry that it is for. -/
theorem find?_eq_of_present
    (h : Runs store bucket options s pages final s')
    {before after : List ListPage}
    {page : ListPage}
    (hSeen : seen pages final = before ++ page :: after)
    {front back : List ObjectInfo}
    {info : ObjectInfo}
    (hItems : page.items = front ++ info :: back)
    (hInfo : p info = true)
    (hFirst :
      ∀ other ∈ before.flatMap (·.items) ++ front,
        p other = false) :
    find? store bucket p (some options) s =
      some
        (.ok (some info),
          (store.listEach bucket
            ((requests options pages).take (before.length + 1))
            s).2) := by
  have hHere : front.find? p = none :=
    find?_items_eq_none (fun other hOther =>
      hFirst other (List.mem_append_right _ hOther))
  have hFound : page.items.find? p = some info := by
    rw [hItems, List.find?_append, hHere, List.find?_cons_of_pos hInfo]
    rfl
  induction h generalizing before with
  | @ends _ _ _ _ final hList hEnds =>
      rw [find?, step_of_ends hList hEnds]
      cases final with
      | error e => simp [seen, Except.toOption] at hSeen
      | ok last =>
          have hOnly : [last] = before ++ page :: after := hSeen
          cases before with
          | cons first more => simp at hOnly
          | nil =>
              rw [List.nil_append, List.cons.injEq] at hOnly
              dsimp only
              rw [hOnly.1, hFound, requests, List.length_nil,
                List.map_nil, List.take_of_length_le (by simp),
                ObjectStore.listEach_cons hList]
              rfl
  | @goesOn _ _ _ _ next _ pages _ hList hMore hToken _ ih =>
      rw [find?, step_of_goesOn hList hMore hToken]
      cases before with
      | nil =>
          have hSame : next = page := (List.cons.inj hSeen).1
          dsimp only
          rw [hSame, hFound, requests, List.length_nil,
            List.take_succ_cons, List.take_zero,
            ObjectStore.listEach_cons hList]
          rfl
      | cons first more =>
          have hSame : next = first := (List.cons.inj hSeen).1
          rw [List.flatMap_cons, ← hSame, List.append_assoc] at hFirst
          dsimp only
          rw [find?_items_eq_none (fun other hOther =>
            hFirst other (List.mem_append_left _ hOther))]
          dsimp only
          rw [ih (List.cons.inj hSeen).2 (fun other hOther =>
              hFirst other (List.mem_append_right _ hOther)),
            requests_cons hToken, List.length_cons,
            List.take_succ_cons, ObjectStore.listEach_cons hList]

end Runs

end ListWalk

end StorageRouting

------------------------------------------------------------
-- Clients
------------------------------------------------------------

namespace StorageRouting

namespace StorageClient

variable {σ : Type}

/- The entries of pages, unless an error comes behind them. -/
theorem gather_append
    (pages : List ListPage)
    (final : Except Error ListPage) :
    gather (pages.map .ok ++ [final]) =
      final.map
        (fun _ => (ListWalk.seen pages final).flatMap (·.items)) := by
  induction pages with
  | nil =>
      cases final with
      | error e => rfl
      | ok page => rfl
  | cons page pages ih =>
      rw [List.map_cons, List.cons_append, gather, ih]
      cases final with
      | error e => rfl
      | ok last => rfl

/- A lookup answers what the search for its key comes to. -/
theorem stat_of_find?
    {a : Adapter σ}
    {bucket : String}
    {c : StorageClient}
    {r : Route σ}
    {asked : Option String}
    (hTarget : c.target r asked = .ok (a, bucket))
    {key : String}
    {s s' : σ}
    {found : Except Error (Option ObjectInfo)}
    (hFind :
      ListWalk.find? a.toObjectStore bucket
        (fun info => info.key == c.keyOn a key)
        (some (exactKey (c.keyOn a key))) s = some (found, s')) :
    c.stat r asked key s =
      (found.bind
        (fun
        | some info => .ok info
        | none =>
            .error
              (.notFound
                ("Object not found: " ++ bucket ++ "/" ++
                  c.keyOn a key))), s') := by
  rw [stat, ClientCall.withTarget_of_ok hTarget]
  simp only [ListWalk.find, hFind, Option.getD_some]
  rcases found with e | _ | info <;> rfl

/-
  What a client makes of any backend that answers its listing
  requests from a script.  A walk asks for what it was told to
  and then, page by page, with the token of the page before and
  all else unchanged; it yields the pages of the script in
  order, and ends with the first that is not truncated, or with
  the error that comes in place of one.  A listing holds the
  entries of all these pages, if there was no error, and else
  is that error.  A lookup answers the first entry with its key,
  and asks for no page behind it; if there is none, it answers
  the error, or else that nothing was found.
-/
theorem paging_follows_script
    {a : Adapter σ}
    {bucket : String}
    {script : Adapter.Script}
    {s : σ}
    (hRecites : a.Recites bucket script s)
    {c : StorageClient}
    {r : Route σ}
    {asked : Option String}
    (hTarget : c.target r asked = .ok (a, bucket)) :
    (∀ options, ∃ pages final s',
      ListWalk.Follows a.toObjectStore bucket script options s pages
        final s' ∧
      ListWalk.drain? a.toObjectStore bucket (some options) s =
        some (pages.map .ok ++ [final], s') ∧
      c.listAll r asked options s =
        (final.map
          (fun _ =>
            (ListWalk.seen pages final).flatMap (·.items)), s')) ∧
    ∀ key,
      let mapped := c.keyOn a key
      let options := exactKey mapped
      ∃ pages final s',
        ListWalk.Follows a.toObjectStore bucket script options s
          pages final s' ∧
        (∀ before page after front info back,
          ListWalk.seen pages final = before ++ page :: after →
          page.items = front ++ info :: back →
          info.key = mapped →
          (∀ other ∈ before.flatMap (·.items) ++ front,
            other.key ≠ mapped) →
          c.stat r asked key s =
            (.ok info,
              (a.listEach bucket
                ((ListWalk.requests options pages).take
                  (before.length + 1)) s).2)) ∧
        ((∀ info ∈ (ListWalk.seen pages final).flatMap (·.items),
            info.key ≠ mapped) →
          c.stat r asked key s =
            (final.bind
              (fun _ =>
                .error
                  (.notFound
                    ("Object not found: " ++ bucket ++ "/" ++
                      mapped))), s')) := by
  constructor
  · intro options
    rcases ListWalk.exists_runs hRecites options with
      ⟨pages, final, s', hRuns⟩
    have hDrain := hRuns.drain?_eq
    refine ⟨pages, final, s', hRuns.follows hRecites, hDrain, ?_⟩
    rw [listAll, ClientCall.withTarget_of_ok hTarget,
      ListWalk.drain, hDrain, ← gather_append]
    rfl
  · intro key mapped options
    rcases ListWalk.exists_runs hRecites options with
      ⟨pages, final, s', hRuns⟩
    refine ⟨pages, final, s', hRuns.follows hRecites, ?_, ?_⟩
    · intro before page after front info back hSeen hItems hKey
        hFirst
      have hFind :=
        hRuns.find?_eq_of_present hSeen hItems
          (p := fun info => info.key == mapped)
          (by simpa using hKey)
          (fun other hOther => by simpa using hFirst other hOther)
      exact stat_of_find? hTarget hFind
    · intro hAbsent
      have hFind :=
        hRuns.find?_eq_of_absent
          (p := fun info => info.key == mapped)
          (fun info hInfo => by simpa using hAbsent info hInfo)
      rw [stat_of_find? hTarget hFind]
      cases final with
      | error e => rfl
      | ok page => rfl

/- An empty page, and one that holds a key twice. -/
def samplePages : List ListPage :=
  [⟨[], true, some ""⟩,
    ⟨[ObjectInfo.file "a/b" 1, ObjectInfo.file "a" 2,
        ObjectInfo.file "a" 3], true, some ""⟩]

/-
  These pages, which have one token, and a page that tells of
  more and not where.
-/
def sampleScript : Adapter.Script :=
  samplePages.map .ok ++
    [.ok ⟨[ObjectInfo.file "b" 4], true, none⟩]

/- An adapter that holds its script, and what it was asked for. -/
def scriptedAdapter : Adapter (Adapter.Script × List ListOptions) :=
  Adapter.scripted
    ⟨Prod.fst, fun script s => (script, s.2)⟩
    ⟨Prod.snd, fun asked s => (s.1, asked)⟩
    (MemoryStore.adapter
      ⟨fun _ => MemoryStore.empty "one", fun _ s => s⟩
      (fun _ => default)
      { BackendConfig.blank with name := "one" })

/- A registry whose only backend is the scripted one. -/
def scriptedRoute : Route (Adapter.Script × List ListOptions) where
  registry :=
    ((Registry.new "one" false).register "one" scriptedAdapter).2
  stack := []

/-
  On the sample a listing fails after three requests.  The
  lookup of a key that is listed takes the first entry on the
  second page and stops there; that of a key that is not fails
  as the listing does.
-/
theorem sampleScript_followed :
    let start := (sampleScript, [])
    let again (options : ListOptions) :=
      { options with token := some "" }
    scriptedAdapter.Recites "own" sampleScript start ∧
      standard.target scriptedRoute (some "own") =
        .ok (scriptedAdapter, "own") ∧
      standard.listAll scriptedRoute (some "own") ListOptions.all
          start =
        (.error (ListWalk.brokenOff "own"),
          ([], [ListOptions.all, again ListOptions.all,
            again ListOptions.all])) ∧
      standard.stat scriptedRoute (some "own") "a" start =
        (.ok (ObjectInfo.file "a" 2),
          (sampleScript.drop 2,
            [exactKey "a", again (exactKey "a")])) ∧
      standard.stat scriptedRoute (some "own") "c" start =
        (.error (ListWalk.brokenOff "own"),
          ([], [exactKey "c", again (exactKey "c"),
            again (exactKey "c")])) := by
  intro start again
  have hRecites :
      scriptedAdapter.Recites "own" sampleScript start :=
    Adapter.scripted_recites (fun _ _ => rfl) (fun _ _ => rfl) _
      "own" start
  have hTarget :
      standard.target scriptedRoute (some "own") =
        .ok (scriptedAdapter, "own") := rfl
  have hFollows :
      ∀ options,
        ListWalk.Follows scriptedAdapter.toObjectStore "own"
          sampleScript options start samplePages
          (.error (ListWalk.brokenOff "own"))
          ([], ListWalk.requests options samplePages) := by
    intro options
    apply ListWalk.Runs.follows _ hRecites
    apply ListWalk.Runs.goesOn rfl rfl rfl
    apply ListWalk.Runs.goesOn rfl rfl rfl
    exact ListWalk.Runs.ends rfl (.brokenOff rfl rfl)
  rcases paging_follows_script hRecites hTarget with
    ⟨hDrained, hLookedUp⟩
  refine ⟨hRecites, hTarget, ?_, ?_, ?_⟩
  · rcases hDrained ListOptions.all with
      ⟨pages, final, s', hWalk, _, hAll⟩
    rcases (hFollows _).unique hWalk with ⟨rfl, rfl, rfl⟩
    exact hAll
  · rcases hLookedUp "a" with ⟨pages, final, s', hWalk, hFound, _⟩
    rcases (hFollows _).unique hWalk with ⟨rfl, rfl, rfl⟩
    exact
      hFound [⟨[], true, some ""⟩] _ [] [ObjectInfo.file "a/b" 1]
        (ObjectInfo.file "a" 2) [ObjectInfo.file "a" 3] rfl rfl rfl
        (by decide)
  · rcases hLookedUp "c" with
      ⟨pages, final, s', hWalk, _, hMissing⟩
    rcases (hFollows _).unique hWalk with ⟨rfl, rfl, rfl⟩
    exact hMissing (by decide)

end StorageClient

end StorageRouting
