import StorageRouting.Proofs.Registry.Operation
import StorageRouting.Proofs.Routing.CallTree

/-
  Names that select a backend.  An operation asks a registry
  which backend is current, in its own body and in the calls it
  makes; its own questions are answered by the key it was called
  with.  A name under which a backend stands leads there unless
  it is empty or stands for another key, and it can be removed
  unless it is blank.

  Key definitions include:
    * `RoutedOperation`
    * `RoutedOperation.program`
    * `RoutedOperation.asked`
    * `Registry.asks`

  Main statements:
    * `RoutedOperation.poll_met`
    * `RoutedOperation.own_answer`
    * `Registry.resolve_of_listed`
    * `Registry.unregister_of_listed`
    * `Registry.listed_name_selects`
-/

------------------------------------------------------------
-- Operations That Ask
------------------------------------------------------------

namespace StorageRouting

/-
  An operation that asks for the current backend, gives way,
  makes calls, catches failures or panics, and returns, fails
  or panics.
-/
inductive RoutedOperation where
| done : RoutedOperation
| fail (message : String) : RoutedOperation
| panic (message : String) : RoutedOperation
| ask (rest : RoutedOperation) : RoutedOperation
| yield (rest : RoutedOperation) : RoutedOperation
| call (k : Call) (body rest : RoutedOperation) : RoutedOperation
| attempt (body rest : RoutedOperation) : RoutedOperation
| recover (body rest : RoutedOperation) : RoutedOperation

/-
  The program of an operation.  A question is marked with the
  number of calls around it.
-/
def RoutedOperation.program
    (depth : Nat) :
    RoutedOperation → Program Nat
| .done => .done
| .fail message => .fail message
| .panic message => .panic message
| .ask rest => .act (.outside depth) (rest.program depth)
| .yield rest => .yield (rest.program depth)
| .call k body rest =>
    .block k.block (body.program (depth + 1))
      (rest.program depth)
| .attempt body rest =>
    .block .attempt (body.program depth) (rest.program depth)
| .recover body rest =>
    .block .recover (body.program depth) (rest.program depth)

/- Questions are answered with the backend that is current. -/
def Registry.asks
    {A ω : Type}
    (r : Registry A) : Outside Nat (Except Error A) ω :=
  fun _ stack w => (r.current stack, w)

/-
  What an operation sees of a registry under a root stack,
  inside calls that put their keys on it.
-/
def RoutedOperation.asked
    {A : Type}
    (r : Registry A)
    (c : Interceptor)
    (root : Stack)
    (depth : Nat)
    (keys : List String) :
    RoutedOperation → Sight Nat (Except Error A)
| .done => ⟨[], .finished⟩
| .fail message => ⟨[], .failed message⟩
| .panic message => ⟨[], .panicked message⟩
| .ask rest =>
    let later := rest.asked r c root depth keys
    ⟨.outside depth (r.current (root ++ keys)) :: later.lines,
      later.ending⟩
| .yield rest => rest.asked r c root depth keys
| .call k body rest =>
    Sight.settle k.block (root ++ keys)
      (body.asked r c root (depth + 1)
        (keys ++ (k.block.key? c).toList))
      (rest.asked r c root depth keys)
| .attempt body rest =>
    Sight.settle .attempt (root ++ keys)
      (body.asked r c root depth keys)
      (rest.asked r c root depth keys)
| .recover body rest =>
    Sight.settle .recover (root ++ keys)
      (body.asked r c root depth keys)
      (rest.asked r c root depth keys)

end StorageRouting

------------------------------------------------------------
-- Answers
------------------------------------------------------------

namespace StorageRouting

variable {A β α ω : Type}

/- A block records the answers of its body and of its rest. -/
theorem Sight.outside_mem_settle
    {b : Block}
    {stack : Stack}
    {body rest : Sight β α}
    {label : β}
    {answer : α}
    (h :
      .outside label answer ∈
        (Sight.settle b stack body rest).lines) :
    .outside label answer ∈ body.lines ∨
      .outside label answer ∈ rest.lines := by
  unfold Sight.settle at h
  split at h <;>
    simp only [List.mem_append, List.mem_cons, reduceCtorEq,
      List.not_mem_nil, or_false, false_or] at h
  · exact h
  · exact h
  · exact Or.inl h
  · exact h
  · exact Or.inl h

namespace RoutedOperation

/-
  Questions are marked with no fewer calls than there are, and
  those of an operation itself are answered by the stack around
  it.
-/
theorem own_answer
    {r : Registry A}
    {c : Interceptor}
    {root : Stack}
    {depth : Nat}
    {keys : List String}
    {t : RoutedOperation}
    {n : Nat}
    {answer : Except Error A}
    (h :
      .outside n answer ∈
        (t.asked r c root depth keys).lines) :
    depth ≤ n ∧
      (n = depth → answer = r.current (root ++ keys)) := by
  induction t generalizing depth keys with
  | ask rest ih =>
      rcases List.mem_cons.mp h with hNow | hLater
      · cases hNow
        exact ⟨Nat.le_refl _, fun _ => rfl⟩
      · exact ih hLater
  | yield rest ih => exact ih h
  | call k body rest ihBody ihRest =>
      rcases Sight.outside_mem_settle h with hInner | hLater
      · have hDeeper := (ihBody hInner).1
        exact ⟨by omega, fun hSame => by omega⟩
      · exact ihRest hLater
  | attempt body rest ihBody ihRest =>
      rcases Sight.outside_mem_settle h with hInner | hLater
      · exact ihBody hInner
      · exact ihRest hLater
  | recover body rest ihBody ihRest =>
      rcases Sight.outside_mem_settle h with hInner | hLater
      · exact ihBody hInner
      · exact ihRest hLater
  | _ => simp [asked] at h

/- An operation that is run straight comes to what it sees. -/
theorem poll_met
    (r : Registry A)
    (t : RoutedOperation)
    {c : Interceptor}
    {root : Stack}
    {depth : Nat}
    {keys : List String}
    {m : Machine Nat (Except Error A) ω}
    (hStack : m.context.current = root ++ keys)
    (hAgrees : m.interceptor.Agrees c) :
    (t.asked r c root depth keys).Met m
      ((t.program depth).poll r.asks true m) := by
  induction t generalizing depth keys m with
  | done =>
      rw [program, Program.poll]
      exact Sight.Met.ends m .finished
  | fail message =>
      rw [program, Program.poll]
      exact Sight.Met.ends m (.failed message)
  | panic message =>
      rw [program, Program.poll]
      exact Sight.Met.ends m (.panicked message)
  | ask rest ih =>
      rw [program, Program.poll]
      have hRun :
          m.run r.asks (.outside depth) =
            m.log
              (.outside depth (r.current (root ++ keys))) := by
        simp only [Machine.run, Registry.asks, hStack]
      rw [hRun]
      have hNow := Sight.Met.ends m .finished
      exact hNow.follow (ih hStack hAgrees)
  | yield rest ih =>
      rw [program, Program.poll, if_pos rfl]
      exact ih hStack hAgrees
  | call k body rest ihBody ihRest =>
      exact
        Sight.met_block hStack hAgrees k.nests
          (fun m => ihBody) (fun m => ihRest)
  | attempt body rest ihBody ihRest =>
      refine
        Sight.met_block (b := .attempt) hStack hAgrees trivial
          ?_ (fun m => ihRest)
      intro m hInner
      exact ihBody (by simpa [Block.key?] using hInner)
  | recover body rest ihBody ihRest =>
      refine
        Sight.met_block (b := .recover) hStack hAgrees trivial
          ?_ (fun m => ihRest)
      intro m hInner
      exact ihBody (by simpa [Block.key?] using hInner)

/- Operations have no branches and are not given up. -/
theorem program_sequential
    (t : RoutedOperation)
    (depth : Nat) :
    (t.program depth).In (Fragment.sequential Nat) := by
  induction t generalizing depth with
  | call k body rest ihBody ihRest =>
      exact ⟨k.nests.ne_cancel, ihBody _, ihRest _⟩
  | attempt body rest ihBody ihRest =>
      exact ⟨Block.Nests.ne_cancel trivial, ihBody _, ihRest _⟩
  | recover body rest ihBody ihRest =>
      exact ⟨Block.Nests.ne_cancel trivial, ihBody _, ihRest _⟩
  | ask rest ih => exact ⟨trivial, ih _⟩
  | yield rest ih => exact ih _
  | _ => trivial

end RoutedOperation

end StorageRouting

------------------------------------------------------------
-- Names of Backends
------------------------------------------------------------

namespace StorageRouting

namespace Registry

variable {A σ : Type}

/- A backend stands under every name that is listed. -/
theorem mem_backends_iff
    {r : Registry A}
    {name : String} :
    name ∈ r.backends ↔ ∃ a, r.get? name = some a :=
  Dictionary.mem_keys_iff.trans Option.isSome_iff_exists

/-
  A backend is selected by its name, if that is not empty, or
  is the primary name.
-/
theorem resolve_of_listed
    {r : Registry A}
    {name : String}
    {a : A}
    (hFound : r.get? name = some a)
    (hName : name = "" → r.primary = "") :
    r.resolve name = .ok a := by
  by_cases hEmpty : name = ""
  · rw [resolve_of_fallback (Or.inl hEmpty), primaryAdapter,
      hName hEmpty, ← hEmpty, hFound]
  · exact resolve_of_get? hEmpty hFound

/- A blank name is not removed. -/
theorem unregister_of_blank
    (close : Close A σ)
    (r : Registry A)
    {name : String}
    (s : σ)
    (hBlank : Text.isBlankText name = true) :
    r.unregister close name s =
      ⟨.error
          (.driverRemovalRejected
            "backend name must not be empty"), r, s⟩ := by
  simp [unregister, removalRefusal?, hBlank]

/-
  A backend under any other name can be removed from a registry
  that is not strict, and the others stay.
-/
theorem unregister_of_listed
    (close : Close A σ)
    {r : Registry A}
    {name : String}
    (s : σ)
    (hListed : name ∈ r.backends)
    (hLax : r.strict = false)
    (hText : Text.isBlankText name = false) :
    let c := r.unregister close name s
    c.answer = .ok true ∧
      ∀ other, c.registry.get? other =
        if other = name then none else r.get? other := by
  have hAllowed : r.removalRefusal? name = none := by
    simp [removalRefusal?, hText, hLax]
  rcases mem_backends_iff.mp hListed with ⟨a, hFound⟩
  rcases r.unregister_cases close name s with
    ⟨e, hRefused, _⟩ | ⟨_, hNone, _⟩ | ⟨b, _, _, hRemoved⟩
  · rw [hAllowed] at hRefused
    cases hRefused
  · rw [hFound] at hNone
    cases hNone
  · rw [hRemoved]
    exact ⟨rfl, r.get?_without name⟩

/-
  What names of backends are good for.  An operation that is
  called with such a name ends as its body does and leaves the
  stacks as they were.  Its own questions are answered with the
  backend of the key that the name stands for: with the one
  under the name unless the name is dynamic, or empty and not
  that of the primary backend.  With a registry that is not
  strict the name can be removed, unless it is blank.
-/
theorem listed_name_selects
    {ω : Type}
    (close : Close A σ)
    (r : Registry A)
    (s : σ)
    (m : Machine Nat (Except Error A) ω)
    (i : Invocation)
    (t : RoutedOperation)
    {name : String}
    (hListed : name ∈ r.backends) :
    let key := m.interceptor.determineKey name i
    let root := m.context.current
    let body := t.asked r m.interceptor root 1 [key]
    let call := RoutedOperation.call (.invokeKey name i) t .done
    ∃ a, r.get? name = some a ∧
      (Sight.settle (.invokeKey name i) root body
          ⟨[], .finished⟩).Met m
        ((call.program 0).run r.asks m) ∧
      (∀ answer, .outside 1 answer ∈ body.lines →
        answer = r.resolve key) ∧
      (isDynamic name = false →
        (name = "" → r.primary = "") →
          r.resolve key = .ok a) ∧
      (r.strict = false →
        Text.isBlankText name = false →
          (r.unregister close name s).answer = .ok true ∧
            ∀ other,
              (r.unregister close name s).registry.get? other =
                if other = name then none
                else r.get? other) ∧
      (Text.isBlankText name = true →
        r.unregister close name s =
          ⟨.error
              (.driverRemovalRejected
                "backend name must not be empty"), r, s⟩) := by
  intro key root body call
  rcases mem_backends_iff.mp hListed with ⟨a, hFound⟩
  refine ⟨a, hFound, ?_, ?_, ?_, ?_, ?_⟩
  · rw [Program.run_eq_poll_sync r.asks m
      (call.program_sequential 0)]
    have hMet :
        (call.asked r m.interceptor root 0 []).Met m
          ((call.program 0).poll r.asks true m) :=
      call.poll_met r (List.append_nil root).symm (.refl _)
    have hSeen :
        call.asked r m.interceptor root 0 [] =
          Sight.settle (.invokeKey name i) root body
            ⟨[], .finished⟩ := by
      change Sight.settle _ (root ++ []) _ _ = _
      rw [List.append_nil]
      rfl
    rw [← hSeen]
    exact hMet
  · intro answer hAnswer
    have hOwn := (RoutedOperation.own_answer hAnswer).2 rfl
    rw [hOwn, current]
    simp [Stack.peek]
  · intro hStatic hName
    have hKey : key = name := by
      simp [key, Interceptor.determineKey, hStatic]
    rw [hKey]
    exact resolve_of_listed hFound hName
  · exact fun hLax hText =>
      unregister_of_listed close s hListed hLax hText
  · exact unregister_of_blank close r s

/- Backends under common names, and under odd ones. -/
def sampleNames : Registry Nat :=
  (registerAll
    [("s3a", 0), ("s3b", 1), ("", 2), ("#", 3), (" ", 4)]
    (new "s3a" false)).2

/- An operation that asks, calls another backend and asks. -/
def sampleOperation : RoutedOperation :=
  .ask (.call (.scope "s3a") (.ask .done) (.ask .done))

/- Call an operation with the name of a backend. -/
def sampleRun
    (name : String)
    (t : RoutedOperation) :
    Outcome Nat × Machine Nat (Except Error Nat) Unit :=
  ((RoutedOperation.call (.invokeKey name (.new "store")) t
      .done).program 0).run sampleNames.asks
    (Machine.start .standard ())

/- Close a backend without more ado. -/
def sampleClose : Close Nat Unit :=
  fun _ _ s => (.ok (), s)

/- A common name selects its backend and can be removed. -/
theorem sampleNames_select :
    "s3b" ∈ sampleNames.backends ∧
      (sampleRun "s3b" sampleOperation).2.record =
        [.ended (.invokeKey "s3b" (.new "store")) [] none,
          .outside 1 (.ok 1),
          .ended (.scope "s3a") ["s3b"] none,
          .outside 2 (.ok 0), .outside 1 (.ok 1)] ∧
      (∀ answer,
        .outside 1 answer ∈
            (sampleOperation.asked sampleNames .standard [] 1
              ["s3b"]).lines →
          answer = .ok 1) ∧
      (sampleNames.unregister sampleClose "s3b" ()).answer =
        .ok true := by
  have hListed : "s3b" ∈ sampleNames.backends := by decide
  rcases listed_name_selects sampleClose sampleNames ()
      (Machine.start .standard () : Machine _ _ Unit)
      (.new "store") sampleOperation hListed with
    ⟨a, hFound, hMet, hOwn, hSelects, hRemoved, _⟩
  have hSame : a = 1 := by
    cases hFound
    rfl
  subst hSame
  refine ⟨hListed, ?_, ?_, (hRemoved rfl (by decide)).1⟩
  · exact hMet.record
  · intro answer hAnswer
    have hKey := hSelects (by decide) (by decide)
    exact (hOwn answer hAnswer).trans hKey

/-
  Not every name selects its backend: under the empty name and
  under a dynamic one the primary backend is asked, and a blank
  name is not removed.
-/
theorem odd_names_do_not_select :
    sampleNames.strict = false ∧
      (sampleNames.get? "" = some 2 ∧
        (sampleRun "" (.ask .done)).2.record =
          [.ended (.invokeKey "" (.new "store")) [] none,
            .outside 1 (.ok 0)]) ∧
      (sampleNames.get? "#" = some 3 ∧
        (sampleRun "#" (.ask .done)).2.record =
          [.ended (.invokeKey "#" (.new "store")) [] none,
            .outside 1 (.ok 0)]) ∧
      sampleNames.get? " " = some 4 ∧
      (sampleNames.unregister sampleClose " " ()).answer =
        .error
          (.driverRemovalRejected
            "backend name must not be empty") :=
  ⟨rfl, ⟨rfl, rfl⟩, ⟨rfl, rfl⟩, rfl, rfl⟩

end Registry

end StorageRouting
