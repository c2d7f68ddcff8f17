import StorageRouting.Document.Toml.Literal
import StorageRouting.Document.Toml.Quoted

/-
  A string that is written is read back, whatever its characters
  are.

  Key definitions include:
    * `Toml.WritesNext`
    * `Toml.quoteRun`
    * `Toml.Form.Suits`

  Main statements:
    * `Toml.escaped_cons`
    * `Toml.readString?_written`
    * `Toml.readString?_stringText`
-/

------------------------------------------------------------
-- Escapes
------------------------------------------------------------

namespace StorageRouting

namespace Toml

/- The code of a control character is read back. -/
theorem number?_code (n : Nat) (h : n < 128) :
    Hex.number?
        ['0', '0', Hex.upperDigit (n / 16), Hex.upperDigit (n % 16)] =
      some n := by
  have hAll :
      ∀ m : Fin 128,
        Hex.number?
            ['0', '0', Hex.upperDigit (m / 16),
              Hex.upperDigit (m % 16)] =
          some m.val := by
    decide +kernel
  exact hAll ⟨n, h⟩

theorem readEscape?_code
    {c : Char}
    (h : isControl c = true)
    (rest : List Char) :
    readEscape? ((codeEscape c).tail ++ rest) = some (c, rest) := by
  have hSmall : c.toNat < 128 := by
    rw [isControl, Bool.or_eq_true, Bool.and_eq_true,
      Bool.and_eq_true, decide_eq_true_eq, beq_iff_eq] at h
    omega
  have hScalar :
      c.toNat < 0x110000 ∧
        ¬(0xD800 ≤ c.toNat ∧ c.toNat < 0xE000) := by
    omega
  simp only [codeEscape, List.tail_cons, List.cons_append,
    List.nil_append, readEscape?, readCode?, List.take_succ_cons,
    List.take_zero, List.drop_succ_cons, List.drop_zero,
    List.length_cons, List.length_nil, number?_code _ hSmall,
    if_pos hScalar, Char.ofNat_toNat]
  rfl

/-
  An escape is a backslash, and what follows it is read back as
  the character.  It never joins two lines.
-/
theorem escape?_eq_some
    {multiLine : Bool}
    {c : Char}
    {es : List Char}
    (h : escape? multiLine c = some es) :
    ∃ tail,
      es = '\\' :: tail ∧
      ∀ rest,
        readEscape? (tail ++ rest) = some (c, rest) ∧
        endsLine (tail ++ rest) = false := by
  have hOne :
      ∀ e,
        (∀ rest, readEscape? (e :: rest) = some (c, rest)) →
        (∀ rest, endsLine (e :: rest) = false) →
        es = ['\\', e] →
        ∃ tail,
          es = '\\' :: tail ∧
          ∀ rest,
            readEscape? (tail ++ rest) = some (c, rest) ∧
            endsLine (tail ++ rest) = false := by
    intro e hRead hEnds hEs
    exact ⟨[e], hEs, fun rest => ⟨hRead rest, hEnds rest⟩⟩
  have hChar : ∀ {n}, c.toNat = n → c = Char.ofNat n := by
    rintro n rfl
    exact (Char.ofNat_toNat c).symm
  unfold escape? at h
  split at h
  · rename_i hCode
    cases h
    exact hOne 'b' (fun _ => hChar hCode ▸ rfl) (fun _ => rfl) rfl
  split at h
  · subst c
    cases h
    exact hOne 't' (fun _ => rfl) (fun _ => rfl) rfl
  split at h
  · subst c
    split at h
    · cases h
    · cases h
      exact hOne 'n' (fun _ => rfl) (fun _ => rfl) rfl
  split at h
  · rename_i hCode
    cases h
    exact hOne 'f' (fun _ => hChar hCode ▸ rfl) (fun _ => rfl) rfl
  split at h
  · subst c
    cases h
    exact hOne 'r' (fun _ => rfl) (fun _ => rfl) rfl
  split at h
  · subst c
    cases h
    exact hOne '\\' (fun _ => rfl) (fun _ => rfl) rfl
  split at h
  · rename_i hControl
    cases h
    exact ⟨(codeEscape c).tail, rfl, fun rest =>
      ⟨readEscape?_code hControl rest, rfl⟩⟩
  · cases h

/- A character that needs no escape can stand as it is. -/
theorem escape?_eq_none
    {multiLine : Bool}
    {c : Char}
    (h : escape? multiLine c = none) :
    c ≠ '\\' ∧ c ≠ '\r' ∧
      (isForbidden c = true → c = '\n' ∧ multiLine = true) := by
  unfold escape? at h
  split at h
  · cases h
  split at h
  · cases h
  rename_i hTab
  split at h
  · rename_i hLine
    split at h
    · rename_i hMulti
      subst hLine
      exact ⟨by decide, by decide, fun _ => ⟨rfl, hMulti⟩⟩
    · cases h
  rename_i hLine
  split at h
  · cases h
  split at h
  · cases h
  rename_i hReturn
  split at h
  · cases h
  rename_i hSlash
  split at h
  · cases h
  rename_i hControl
  refine ⟨hSlash, hReturn, ?_⟩
  intro hForbidden
  apply absurd _ hControl
  simpa [isControl, isForbidden, hTab, hLine] using hForbidden

/-
  How a character is written in front of others: as it is, or as
  an escape that is read back as the character.
-/
inductive WritesNext
    (multiLine : Bool)
    (quotes : Nat)
    (c : Char)
    (cs : List Char) : Prop
| bare
    {next : Nat}
    (text :
      escaped multiLine quotes (c :: cs) =
        c :: escaped multiLine next cs)
    (quote :
      c = '"' →
        multiLine = true ∧ quotes < 2 ∧ next = quotes + 1)
    (slash : c ≠ '\\')
    (back : c ≠ '\r')
    (allowed : isForbidden c = true → c = '\n' ∧ multiLine = true) :
    WritesNext multiLine quotes c cs
| escape
    {tail : List Char}
    (text :
      escaped multiLine quotes (c :: cs) =
        '\\' :: (tail ++ escaped multiLine 0 cs))
    (read :
      ∀ rest,
        readEscape? (tail ++ rest) = some (c, rest) ∧
        endsLine (tail ++ rest) = false) :
    WritesNext multiLine quotes c cs

theorem escaped_cons
    (multiLine : Bool)
    (quotes : Nat)
    (c : Char)
    (cs : List Char) : WritesNext multiLine quotes c cs := by
  by_cases hQuote : c = '"'
  · subst hQuote
    by_cases hBare : quotes < if multiLine then 2 else 0
    · have hMulti : multiLine = true := by
        cases multiLine with
        | false => exact absurd hBare (Nat.not_lt_zero _)
        | true => rfl
      subst hMulti
      have hText :
          escaped true quotes ('"' :: cs) =
            '"' :: escaped true (quotes + 1) cs := by
        rw [escaped, if_pos rfl, if_pos hBare]
      exact .bare hText (fun _ => ⟨rfl, hBare, rfl⟩) (by decide)
        (by decide) (by decide)
    · have hText :
          escaped multiLine quotes ('"' :: cs) =
            '\\' :: (['"'] ++ escaped multiLine 0 cs) := by
        rw [escaped, if_pos rfl, if_neg hBare]
        rfl
      exact .escape hText (fun _ => ⟨rfl, rfl⟩)
  · cases hEscape : escape? multiLine c with
    | some es =>
        rcases escape?_eq_some hEscape with ⟨tail, rfl, hRead⟩
        have hText :
            escaped multiLine quotes (c :: cs) =
              '\\' :: (tail ++ escaped multiLine 0 cs) := by
          simp only [escaped, if_neg hQuote, hEscape,
            List.cons_append]
        exact .escape hText hRead
    | none =>
        rcases escape?_eq_none hEscape with
          ⟨hSlash, hReturn, hAllowed⟩
        have hText :
            escaped multiLine quotes (c :: cs) =
              c :: escaped multiLine 0 cs := by
          simp only [escaped, if_neg hQuote, hEscape]
        exact .bare hText (absurd · hQuote) hSlash hReturn hAllowed

end Toml

end StorageRouting

------------------------------------------------------------
-- Strings on One Line
------------------------------------------------------------

namespace StorageRouting

namespace Toml

/- A string in basic quotes is read back. -/
theorem readBasic?_escaped
    {rest : List Char}
    (cs acc : List Char)
    {quotes fuel : Nat}
    (hFuel : (escaped false quotes cs).length < fuel) :
    readBasic? fuel acc (escaped false quotes cs ++ '"' :: rest) =
      some (String.ofList (acc.reverse ++ cs), rest) := by
  induction cs generalizing acc quotes fuel with
  | nil =>
      cases fuel with
      | zero => exact absurd hFuel (Nat.not_lt_zero _)
      | succ fuel => simp [escaped, readBasic?]
  | cons c cs ih =>
      have hMore :
          ∀ {quotes fuel},
            (escaped false quotes cs).length < fuel →
            readBasic? fuel (c :: acc)
                (escaped false quotes cs ++ '"' :: rest) =
              some (String.ofList (acc.reverse ++ c :: cs), rest) := by
        intro quotes fuel hLess
        rw [ih (c :: acc) hLess, List.reverse_cons,
          List.append_assoc, List.singleton_append]
      cases fuel with
      | zero => exact absurd hFuel (Nat.not_lt_zero _)
      | succ fuel =>
          cases escaped_cons false quotes c cs with
          | bare hText hQuote hSlash _ hAllowed =>
              have hFree : isForbidden c = false := by
                rw [Bool.eq_false_iff]
                intro hForbidden
                exact Bool.false_ne_true (hAllowed hForbidden).2
              have hOpen : c ≠ '"' := by
                intro hSame
                exact Bool.false_ne_true (hQuote hSame).1
              rw [hText, List.length_cons] at hFuel
              rw [hText, List.cons_append, readBasic?, if_neg hOpen,
                if_neg hSlash, hFree, if_neg Bool.false_ne_true]
              exact hMore (by omega)
          | escape hText hRead =>
              rw [hText, List.length_cons, List.length_append]
                at hFuel
              rw [hText, List.cons_append, List.append_assoc,
                readBasic?]
              simp only [(hRead _).1]
              exact hMore (by omega)

/- A string in literal quotes is read back. -/
theorem readLiteral?_append
    {rest : List Char}
    (cs acc : List Char)
    (hFree : ∀ c ∈ cs, c ≠ '\'' ∧ isForbidden c = false) :
    readLiteral? acc (cs ++ '\'' :: rest) =
      some (String.ofList (acc.reverse ++ cs), rest) := by
  induction cs generalizing acc with
  | nil => simp [readLiteral?]
  | cons c cs ih =>
      rcases hFree c List.mem_cons_self with ⟨hQuote, hAllowed⟩
      have hRest : ∀ d ∈ cs, d ≠ '\'' ∧ isForbidden d = false := by
        intro d hd
        exact hFree d (List.mem_cons_of_mem c hd)
      rw [List.cons_append, readLiteral?, if_neg hQuote, hAllowed,
        if_neg Bool.false_ne_true, ih (c :: acc) hRest,
        List.reverse_cons, List.append_assoc, List.singleton_append]

/- What is escaped does not start with a quote on one line. -/
theorem escaped_head
    (cs : List Char) :
    (escaped false 0 cs).head? ≠ some '"' := by
  cases cs with
  | nil => simp [escaped]
  | cons c cs =>
      cases escaped_cons false 0 c cs with
      | bare hText hQuote _ _ _ =>
          rw [hText, List.head?_cons]
          intro hSame
          exact
            Bool.false_ne_true (hQuote (Option.some.inj hSame)).1
      | escape hText _ =>
          rw [hText, List.head?_cons]
          decide

end Toml

end StorageRouting

------------------------------------------------------------
-- Runs of Quotes
------------------------------------------------------------

namespace StorageRouting

namespace Toml

/- The number of quotes at the start of a text. -/
def quoteRun
    (q : Char)
    (cs : List Char) : Nat :=
  (cs.takeWhile (fun c => c == q)).length

@[simp] theorem quoteRun_nil (q : Char) : quoteRun q [] = 0 :=
  rfl

@[simp] theorem quoteRun_cons_self
    (q : Char)
    (cs : List Char) :
    quoteRun q (q :: cs) = quoteRun q cs + 1 := by
  simp [quoteRun]

theorem quoteRun_cons_of_ne
    {q c : Char}
    (h : c ≠ q)
    (cs : List Char) : quoteRun q (c :: cs) = 0 := by
  simp [quoteRun, h]

theorem quoteRun_of_head
    {q : Char}
    {cs : List Char}
    (h : cs.head? ≠ some q) : quoteRun q cs = 0 := by
  cases cs with
  | nil => rfl
  | cons c cs =>
      apply quoteRun_cons_of_ne
      intro hSame
      exact h (congrArg some hSame)

theorem le_longestRun
    (q : Char)
    (current longest : Nat)
    (cs : List Char) :
    longest ≤ longestRun q current longest cs := by
  induction cs generalizing current longest with
  | nil => exact Nat.le_refl _
  | cons c cs ih =>
      unfold longestRun
      split
      · exact Nat.le_trans (Nat.le_max_left _ _) (ih _ _)
      · exact ih _ _

/- The longest run is as long as one that goes on. -/
theorem quoteRun_le_longestRun
    (q : Char)
    (current longest : Nat)
    (cs : List Char)
    (h : 0 < quoteRun q cs) :
    current + quoteRun q cs ≤ longestRun q current longest cs := by
  induction cs generalizing current longest with
  | nil => exact absurd h (Nat.lt_irrefl 0)
  | cons c cs ih =>
      by_cases hSame : c = q
      · subst hSame
        rw [quoteRun_cons_self, longestRun, if_pos rfl]
        by_cases hMore : 0 < quoteRun c cs
        · have hRun := ih (current + 1) (max longest (current + 1)) hMore
          omega
        · have hHere :=
            le_longestRun c (current + 1)
              (max longest (current + 1)) cs
          omega
      · rw [quoteRun_cons_of_ne hSame] at h
        exact absurd h (Nat.lt_irrefl 0)

/- No run in a text is longer than the longest. -/
theorem quoteRun_suffix_le
    (q : Char)
    (current longest : Nat)
    (before cs : List Char) :
    quoteRun q cs ≤ longestRun q current longest (before ++ cs) := by
  induction before generalizing current longest with
  | nil =>
      by_cases hRun : 0 < quoteRun q cs
      · have hHere := quoteRun_le_longestRun q current longest cs hRun
        rw [List.nil_append]
        omega
      · omega
  | cons c before ih =>
      rw [List.cons_append]
      unfold longestRun
      split
      · exact ih _ _
      · exact ih _ _

/- A text without runs has no quotes. -/
theorem ne_of_longestRun_eq_zero
    {q : Char}
    {cs : List Char}
    (h : longestRun q 0 0 cs = 0)
    {c : Char}
    (hMem : c ∈ cs) : c ≠ q := by
  rintro rfl
  rcases List.append_of_mem hMem with ⟨before, after, rfl⟩
  have hRun := quoteRun_suffix_le c 0 0 before (c :: after)
  rw [quoteRun_cons_self, h] at hRun
  omega

end Toml

end StorageRouting

------------------------------------------------------------
-- Closing Quotes
------------------------------------------------------------

namespace StorageRouting

namespace Toml

/- A text is all quotes, or its first run ends within it. -/
theorem quoteRun_append
    (q : Char)
    (cs : List Char) :
    (∃ n, cs = List.replicate n q) ∨
      ∀ more, quoteRun q (cs ++ more) = quoteRun q cs := by
  induction cs with
  | nil => exact Or.inl ⟨0, rfl⟩
  | cons c cs ih =>
      by_cases hSame : c = q
      · subst hSame
        rcases ih with ⟨n, rfl⟩ | hRun
        · exact Or.inl ⟨n + 1, rfl⟩
        · refine Or.inr ?_
          intro more
          rw [List.cons_append, quoteRun_cons_self,
            quoteRun_cons_self, hRun]
      · refine Or.inr ?_
        intro more
        rw [List.cons_append, quoteRun_cons_of_ne hSame,
          quoteRun_cons_of_ne hSame]

theorem quoteRun_replicate
    (q : Char)
    (n : Nat)
    (cs : List Char) :
    quoteRun q (List.replicate n q ++ cs) = n + quoteRun q cs := by
  induction n with
  | zero => simp
  | succ n ih =>
      rw [List.replicate_succ, List.cons_append, quoteRun_cons_self,
        ih]
      omega

/- Fewer than three quotes close nothing. -/
theorem closing?_eq_none
    {q : Char}
    {cs : List Char}
    (h : quoteRun q cs < 3) : closing? q cs = none :=
  if_pos h

/- Up to two quotes before the closing ones belong to the text. -/
theorem closing?_replicate
    {q : Char}
    {n : Nat}
    (hCount : n ≤ 2)
    {rest : List Char}
    (hRest : rest.head? ≠ some q) :
    closing? q (List.replicate n q ++ q :: q :: q :: rest) =
      some (List.replicate n q, rest) := by
  have hRun :
      ((List.replicate n q ++ q :: q :: q :: rest).takeWhile
        (fun c => c == q)).length = n + 3 := by
    have hAll := quoteRun_replicate q n (q :: q :: q :: rest)
    rw [quoteRun_cons_self, quoteRun_cons_self, quoteRun_cons_self,
      quoteRun_of_head hRest] at hAll
    exact hAll
  unfold closing?
  rw [hRun]
  rcases n with _ | _ | _ | n
  · rfl
  · rfl
  · rfl
  · omega

/- Reading ends at closing quotes. -/
theorem readManyLines?_of_closing
    {q : Char}
    {cs more rest : List Char}
    (h : closing? q cs = some (more, rest))
    (fuel : Nat)
    (acc : List Char) :
    readManyLines? q (fuel + 1) acc cs =
      some (String.ofList (acc.reverse ++ more), rest) := by
  cases cs with
  | nil => cases h
  | cons c cs =>
      rw [readManyLines?]
      simp only [h]

theorem lineEnd?_eq_none
    {c : Char}
    (hLine : c ≠ '\n')
    (hReturn : c ≠ '\r')
    (cs : List Char) : lineEnd? (c :: cs) = none := by
  unfold lineEnd?
  split
  · rename_i hSame
    exact absurd (List.cons.inj hSame).1 hLine
  · rename_i hSame
    exact absurd (List.cons.inj hSame).1 hReturn
  · rfl

/- A character that can stand as it is is read as it is. -/
theorem readManyLines?_cons
    {q c : Char}
    {cs : List Char}
    (hOpen : quoteRun q (c :: cs) < 3)
    (hReturn : c ≠ '\r')
    (hSlash : ¬(c = '\\' ∧ q = '"'))
    (hFree : isForbidden c = true → c = '\n')
    (fuel : Nat)
    (acc : List Char) :
    readManyLines? q (fuel + 1) acc (c :: cs) =
      readManyLines? q fuel (c :: acc) cs := by
  rw [readManyLines?]
  simp only [closing?_eq_none hOpen]
  by_cases hLine : c = '\n'
  · subst hLine
    rfl
  · have hAllowed : isForbidden c = false := by
      rw [Bool.eq_false_iff]
      intro hForbidden
      exact hLine (hFree hForbidden)
    simp only [lineEnd?_eq_none hLine hReturn, if_neg hSlash,
      hAllowed, if_neg Bool.false_ne_true]

/- An escape is read as the character that it stands for. -/
theorem readManyLines?_escape
    {c : Char}
    {tail : List Char}
    (hRead :
      ∀ rest,
        readEscape? (tail ++ rest) = some (c, rest) ∧
        endsLine (tail ++ rest) = false)
    (fuel : Nat)
    (acc rest : List Char) :
    readManyLines? '"' (fuel + 1) acc ('\\' :: (tail ++ rest)) =
      readManyLines? '"' fuel (c :: acc) rest := by
  have hOpen : quoteRun '"' ('\\' :: (tail ++ rest)) < 3 := by
    rw [quoteRun_cons_of_ne (by decide)]
    omega
  have hLine : lineEnd? ('\\' :: (tail ++ rest)) = none :=
    lineEnd?_eq_none (by decide) (by decide) _
  rw [readManyLines?]
  simp only [closing?_eq_none hOpen, hLine, (hRead rest).1,
    (hRead rest).2, and_self, if_true, Bool.false_eq_true, if_false]

end Toml

end StorageRouting

------------------------------------------------------------
-- Strings over Several Lines
------------------------------------------------------------

namespace StorageRouting

namespace Toml

variable {rest : List Char}

/-
  A string in literal quotes over several lines is read back when
  it has no three of them in a row.
-/
theorem readManyLines?_literal
    (hRest : rest.head? ≠ some '\'')
    (cs acc : List Char)
    {fuel : Nat}
    (hFuel : cs.length < fuel)
    (hRuns :
      ∀ before after,
        cs = before ++ after → quoteRun '\'' after ≤ 2)
    (hFree : ∀ c ∈ cs, isForbidden c = true → c = '\n') :
    readManyLines? '\'' fuel acc
        (cs ++ '\'' :: '\'' :: '\'' :: rest) =
      some (String.ofList (acc.reverse ++ cs), rest) := by
  induction cs generalizing acc fuel with
  | nil =>
      cases fuel with
      | zero => exact absurd hFuel (Nat.not_lt_zero _)
      | succ fuel =>
          have hClosing := closing?_replicate (Nat.zero_le 2) hRest
          exact readManyLines?_of_closing hClosing fuel acc
  | cons c cs ih =>
      cases fuel with
      | zero => exact absurd hFuel (Nat.not_lt_zero _)
      | succ fuel =>
          have hWhole := hRuns [] (c :: cs) rfl
          -- quotes at the end of the text join the closing ones
          rcases quoteRun_append '\'' (c :: cs) with
            ⟨n, hQuotes⟩ | hOpen
          · have hCount : n ≤ 2 := by
              have hRun := quoteRun_replicate '\'' n []
              rw [List.append_nil, ← hQuotes, quoteRun_nil] at hRun
              omega
            have hClosing := closing?_replicate hCount hRest
            rw [hQuotes]
            exact readManyLines?_of_closing hClosing fuel acc
          · have hShort :
                quoteRun '\''
                  (c :: (cs ++ '\'' :: '\'' :: '\'' :: rest)) < 3 := by
              rw [← List.cons_append, hOpen]
              omega
            have hHere := hFree c List.mem_cons_self
            have hReturn : c ≠ '\r' := by
              rintro rfl
              exact absurd (hHere (by decide)) (by decide)
            rw [List.cons_append,
              readManyLines?_cons hShort hReturn (by simp) hHere,
              ih]
            · simp
            · exact Nat.lt_of_succ_lt_succ hFuel
            · intro before after hSplit
              apply hRuns (c :: before) after
              rw [hSplit, List.cons_append]
            · intro d hd
              exact hFree d (List.mem_cons_of_mem c hd)

/-
  What is escaped after some bare quotes is bare quotes alone, or
  starts with no more of them than are still allowed.
-/
theorem escaped_quotes
    (quotes : Nat)
    (cs : List Char) :
    (∃ n,
      n ≤ 2 - quotes ∧ cs = List.replicate n '"' ∧
      escaped true quotes cs = cs) ∨
    ∀ more,
      quoteRun '"' (escaped true quotes cs ++ more) ≤
        2 - quotes := by
  induction cs generalizing quotes with
  | nil => exact Or.inl ⟨0, Nat.zero_le _, rfl, rfl⟩
  | cons c cs ih =>
      cases escaped_cons true quotes c cs with
      | @bare next hText hQuote _ _ _ =>
          by_cases hSame : c = '"'
          · rcases hQuote hSame with ⟨-, hBare, hNext⟩
            rw [hText, hSame]
            rcases ih next with ⟨n, hCount, hQuotes, hTail⟩ | hRun
            · refine Or.inl ⟨n + 1, by omega, ?_, ?_⟩
              · rw [hQuotes, List.replicate_succ]
              · rw [hTail]
            · refine Or.inr ?_
              intro more
              have hMore := hRun more
              rw [List.cons_append, quoteRun_cons_self]
              omega
          · refine Or.inr ?_
            intro more
            rw [hText, List.cons_append, quoteRun_cons_of_ne hSame]
            exact Nat.zero_le _
      | escape hText _ =>
          refine Or.inr ?_
          intro more
          rw [hText, List.cons_append,
            quoteRun_cons_of_ne (by decide)]
          exact Nat.zero_le _

/-
  A string in basic quotes over several lines is read back.  The
  induction is on the text, with the count of the bare quotes
  before it.
-/
theorem readManyLines?_escaped
    (hRest : rest.head? ≠ some '"')
    (cs acc : List Char)
    {quotes fuel : Nat}
    (hFuel : (escaped true quotes cs).length < fuel) :
    readManyLines? '"' fuel acc
        (escaped true quotes cs ++ '"' :: '"' :: '"' :: rest) =
      some (String.ofList (acc.reverse ++ cs), rest) := by
  induction cs generalizing acc quotes fuel with
  | nil =>
      cases fuel with
      | zero => exact absurd hFuel (Nat.not_lt_zero _)
      | succ fuel =>
          have hClosing := closing?_replicate (Nat.zero_le 2) hRest
          exact readManyLines?_of_closing hClosing fuel acc
  | cons c cs ih =>
      have hMore :
          ∀ {quotes fuel},
            (escaped true quotes cs).length < fuel →
            readManyLines? '"' fuel (c :: acc)
                (escaped true quotes cs ++
                  '"' :: '"' :: '"' :: rest) =
              some (String.ofList (acc.reverse ++ c :: cs), rest) := by
        intro quotes fuel hLess
        rw [ih (c :: acc) hLess, List.reverse_cons,
          List.append_assoc, List.singleton_append]
      cases fuel with
      | zero => exact absurd hFuel (Nat.not_lt_zero _)
      | succ fuel =>
          -- bare quotes at the end of the text join the closing ones
          rcases escaped_quotes quotes (c :: cs) with
            ⟨n, hCount, hQuotes, hSame⟩ | hRun
          · have hTwo : n ≤ 2 := Nat.le_trans hCount (Nat.sub_le 2 _)
            have hClosing := closing?_replicate hTwo hRest
            rw [hSame, hQuotes]
            exact readManyLines?_of_closing hClosing fuel acc
          · have hOpen := hRun ('"' :: '"' :: '"' :: rest)
            cases escaped_cons true quotes c cs with
            | bare hText _ hSlash hReturn hAllowed =>
                rw [hText, List.cons_append] at hOpen ⊢
                rw [hText, List.length_cons] at hFuel
                rw [readManyLines?_cons (by omega) hReturn
                  (fun h => hSlash h.1) (fun h => (hAllowed h).1)]
                exact hMore (by omega)
            | escape hText hRead =>
                rw [hText, List.length_cons, List.length_append]
                  at hFuel
                rw [hText, List.cons_append, List.append_assoc,
                  readManyLines?_escape hRead]
                exact hMore (by omega)

end Toml

end StorageRouting

------------------------------------------------------------
-- Strings in Any Form
------------------------------------------------------------

namespace StorageRouting

namespace Toml

/- Text in which a form can be told from its end. -/
def Unquoted (rest : List Char) : Prop :=
  rest.head? ≠ some '"' ∧ rest.head? ≠ some '\''

/- A form in which a text can be written. -/
def Form.Suits
    (form : Form)
    (cs : List Char) : Prop :=
  match form with
  | .basic => True
  | .basicLines => True
  | .literal => ∀ c ∈ cs, c ≠ '\'' ∧ isForbidden c = false
  | .literalLines =>
      (∀ before after,
        cs = before ++ after → quoteRun '\'' after ≤ 2) ∧
      ∀ c ∈ cs, isForbidden c = true → c = '\n'

/- A character that may stand in a text, or ends a line. -/
theorem isForbidden_of_not_control
    {c : Char}
    (h : isControl c = false)
    (hForbidden : isForbidden c = true) : c = '\n' := by
  by_cases hLine : c = '\n'
  · exact hLine
  · rw [← Bool.not_eq_true] at h
    apply absurd _ h
    simpa [isControl, isForbidden, hLine] using hForbidden

/- The form that is chosen for a text suits it. -/
theorem Form.suits_ofText (cs : List Char) :
    (Form.ofText (Traits.ofText cs)).Suits cs := by
  have hControl :
      ∀ {b : Bool},
        (!cs.any isControl && b) = true →
        ∀ c ∈ cs, isControl c = false := by
    intro b h c hc
    simp only [Bool.and_eq_true, Bool.not_eq_true',
      List.any_eq_false] at h
    exact Bool.eq_false_iff.mpr (h.1 c hc)
  unfold Form.ofText Traits.ofText
  dsimp only
  split
  · trivial
  split
  · rename_i h
    rw [Bool.and_assoc] at h
    intro c hc
    have hClear := hControl h c hc
    simp only [Bool.and_eq_true, beq_iff_eq,
      Bool.not_eq_true'] at h
    refine ⟨ne_of_longestRun_eq_zero h.2.1 hc, ?_⟩
    rw [Bool.eq_false_iff]
    intro hForbidden
    have hLine := isForbidden_of_not_control hClear hForbidden
    rw [hLine] at hc
    have hNone := h.2.2
    simp [hc] at hNone
  split
  · trivial
  split
  · rename_i h
    refine ⟨?_, ?_⟩
    · intro before after hSplit
      have hRun := quoteRun_suffix_le '\'' 0 0 before after
      simp only [Bool.and_eq_true, decide_eq_true_eq] at h
      rw [← hSplit] at hRun
      exact Nat.le_trans hRun h.2
    · intro c hc hForbidden
      exact isForbidden_of_not_control (hControl h c hc) hForbidden
  split
  · trivial
  · trivial

/- Without three quotes a string stands on one line. -/
theorem readString?_eq_readShort?
    {cs : List Char}
    (hDouble : ∀ more, cs ≠ '"' :: '"' :: '"' :: more)
    (hSingle : ∀ more, cs ≠ '\'' :: '\'' :: '\'' :: more) :
    readString? cs = readShort? cs := by
  unfold readString?
  split
  · exact absurd rfl (hDouble _)
  · exact absurd rfl (hSingle _)
  · rfl

/- A text in quotes does not start with three of them. -/
theorem not_triple
    {q : Char}
    {cs rest : List Char}
    (hText : cs.head? ≠ some q)
    (hRest : rest.head? ≠ some q)
    (more : List Char) :
    q :: (cs ++ q :: rest) ≠ q :: q :: q :: more := by
  intro hSame
  have hTail := (List.cons.inj hSame).2
  cases cs with
  | nil =>
      have hMore := (List.cons.inj hTail).2
      rw [hMore] at hRest
      exact hRest rfl
  | cons c cs =>
      have hHead := (List.cons.inj hTail).1
      exact hText (congrArg some hHead)

/- The line end after opening quotes is dropped. -/
theorem dropLineEnd_start
    {cs body : List Char}
    (h : '\n' ∉ cs → lineEnd? body = none) :
    dropLineEnd
        ((if cs.contains '\n' then "\n" else "").toList ++ body) =
      body := by
  by_cases hLine : '\n' ∈ cs
  · rw [if_pos (by simpa using hLine)]
    rfl
  · rw [if_neg (by simpa using hLine), dropLineEnd]
    exact congrArg (·.getD body) (h hLine)

/- A text without line ends starts with none when escaped. -/
theorem lineEnd?_escaped
    {cs rest : List Char}
    (h : '\n' ∉ cs) :
    lineEnd? (escaped true 0 cs ++ '"' :: rest) = none := by
  cases cs with
  | nil => rfl
  | cons c cs =>
      cases escaped_cons true 0 c cs with
      | bare hText _ _ hReturn _ =>
          have hLine : c ≠ '\n' := by
            rintro rfl
            exact h List.mem_cons_self
          rw [hText]
          exact lineEnd?_eq_none hLine hReturn _
      | escape hText _ =>
          rw [hText]
          exact lineEnd?_eq_none (by decide) (by decide) _

/- What is written on one line is read back as such. -/
theorem readShort?_written
    {form : Form}
    (hLine : form.isMultiLine = false)
    {cs rest : List Char}
    (hSuits : form.Suits cs)
    (hRest : Unquoted rest) :
    (∀ more,
      (written form cs).toList ++ rest ≠ '"' :: '"' :: '"' :: more) ∧
    (∀ more,
      (written form cs).toList ++ rest ≠
        '\'' :: '\'' :: '\'' :: more) ∧
    readShort? ((written form cs).toList ++ rest) =
      some (String.ofList cs, rest) := by
  cases form with
  | basic =>
      have hText :
          (written .basic cs).toList ++ rest =
            '"' :: (escaped false 0 cs ++ '"' :: rest) := by
        simp [written, Form.quotes, Form.isMultiLine,
          Form.hasEscapes]
      rw [hText]
      refine ⟨not_triple (escaped_head cs) hRest.1, by simp, ?_⟩
      rw [readShort?]
      apply readBasic?_escaped
      rw [List.length_append, List.length_cons]
      omega
  | literal =>
      have hText :
          (written .literal cs).toList ++ rest =
            '\'' :: (cs ++ '\'' :: rest) := by
        simp [written, Form.quotes, Form.isMultiLine,
          Form.hasEscapes]
      have hHead : cs.head? ≠ some '\'' := by
        intro hSome
        exact (hSuits _ (List.mem_of_mem_head? hSome)).1 rfl
      rw [hText]
      refine ⟨by simp, not_triple hHead hRest.2, ?_⟩
      rw [readShort?]
      exact readLiteral?_append cs [] hSuits
  | basicLines => cases hLine
  | literalLines => cases hLine

/- What is written in a form that suits a text is read back. -/
theorem readString?_written
    {form : Form}
    {cs rest : List Char}
    (hSuits : form.Suits cs)
    (hRest : Unquoted rest) :
    readString? ((written form cs).toList ++ rest) =
      some (String.ofList cs, rest) := by
  cases form with
  | basic =>
      rcases readShort?_written rfl hSuits hRest with
        ⟨hDouble, hSingle, hRead⟩
      rw [readString?_eq_readShort? hDouble hSingle, hRead]
  | literal =>
      rcases readShort?_written rfl hSuits hRest with
        ⟨hDouble, hSingle, hRead⟩
      rw [readString?_eq_readShort? hDouble hSingle, hRead]
  | basicLines =>
      have hText :
          (written .basicLines cs).toList ++ rest =
            '"' :: '"' :: '"' ::
              ((if cs.contains '\n' then "\n" else "").toList ++
                (escaped true 0 cs ++
                  '"' :: '"' :: '"' :: rest)) := by
        simp [written, Form.quotes, Form.isMultiLine,
          Form.hasEscapes]
      rw [hText, readString?, dropLineEnd_start lineEnd?_escaped]
      apply readManyLines?_escaped hRest.1
      simp only [List.length_append]
      omega
  | literalLines =>
      have hText :
          (written .literalLines cs).toList ++ rest =
            '\'' :: '\'' :: '\'' ::
              ((if cs.contains '\n' then "\n" else "").toList ++
                (cs ++ '\'' :: '\'' :: '\'' :: rest)) := by
        simp [written, Form.quotes, Form.isMultiLine,
          Form.hasEscapes]
      have hStart :
          '\n' ∉ cs →
            lineEnd? (cs ++ '\'' :: '\'' :: '\'' :: rest) = none := by
        intro hNone
        cases cs with
        | nil => rfl
        | cons c cs =>
            have hLine : c ≠ '\n' := by
              rintro rfl
              exact hNone List.mem_cons_self
            have hReturn : c ≠ '\r' := by
              rintro rfl
              have hSame :=
                hSuits.2 '\r' List.mem_cons_self (by decide)
              exact absurd hSame (by decide)
            exact lineEnd?_eq_none hLine hReturn _
      rw [hText, readString?, dropLineEnd_start hStart]
      apply readManyLines?_literal hRest.2 cs [] _ hSuits.1 hSuits.2
      simp only [List.length_append]
      omega

/- Every string that is written is read back. -/
theorem readString?_stringText
    (s : String)
    {rest : List Char}
    (hRest : Unquoted rest) :
    readString? ((stringText s).toList ++ rest) = some (s, rest) := by
  have hRead :=
    readString?_written (Form.suits_ofText s.toList) hRest
  rw [String.ofList_toList] at hRead
  exact hRead

/- A string that is written starts with a quote. -/
theorem head?_written
    (form : Form)
    (cs : List Char) :
    ∃ more,
      (written form cs).toList = '"' :: more ∨
        (written form cs).toList = '\'' :: more := by
  cases form <;>
    simp [written, Form.quotes, Form.isMultiLine, Form.hasEscapes]

end Toml

end StorageRouting
