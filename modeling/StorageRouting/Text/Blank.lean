/-
  Blank characters and the trimming of text.

  Key definitions include:
    * `Text.isBlank`
    * `Text.trimChars`
    * `Text.trim`
    * `Text.lowerAscii`
    * `Text.upperAscii`
    * `Text.splitFirst`
    * `Text.cutAt?`
-/

------------------------------------------------------------
-- Blank Characters
------------------------------------------------------------

namespace StorageRouting

namespace Text

/-
  A character is blank when it has the Unicode property
  White_Space.
-/
def isBlank (c : Char) : Bool :=
  let n := c.toNat
  (9 ≤ n && n ≤ 13) || n == 0x20 || n == 0x85 ||
    n == 0xA0 || n == 0x1680 ||
    (0x2000 ≤ n && n ≤ 0x200A) || n == 0x2028 ||
    n == 0x2029 || n == 0x202F || n == 0x205F ||
    n == 0x3000

/- Drop the blank characters at the start of a text. -/
def trimStart (cs : List Char) : List Char :=
  cs.dropWhile isBlank

/- Drop the blank characters at the end of a text. -/
def trimEnd (cs : List Char) : List Char :=
  (cs.reverse.dropWhile isBlank).reverse

/- Drop the blank characters at both ends of a text. -/
def trimChars (cs : List Char) : List Char :=
  trimEnd (trimStart cs)

/- A text without blank characters loses nothing at its start. -/
theorem dropWhile_isBlank_eq
    {cs : List Char}
    (h : ∀ c ∈ cs, isBlank c = false) :
    cs.dropWhile isBlank = cs := by
  cases cs with
  | nil => rfl
  | cons c cs => simp [h c List.mem_cons_self]

/- Trimming leaves a text without blank characters as it is. -/
theorem trimChars_eq
    {cs : List Char}
    (h : ∀ c ∈ cs, isBlank c = false) : trimChars cs = cs := by
  have hEnd : cs.reverse.dropWhile isBlank = cs.reverse :=
    dropWhile_isBlank_eq
      (fun c hc => h c (List.mem_reverse.mp hc))
  rw [trimChars, trimStart, dropWhile_isBlank_eq h, trimEnd, hEnd,
    List.reverse_reverse]

/- Drop the blank characters at both ends of a string. -/
def trim (s : String) : String :=
  String.ofList (trimChars s.toList)

/- A text is blank when nothing is left after trimming. -/
def isBlankText (s : String) : Bool :=
  s.toList.all isBlank

end Text

end StorageRouting

------------------------------------------------------------
-- Letter Case and Cutting
------------------------------------------------------------

namespace StorageRouting

namespace Text

/- Fold the ASCII letters of a string to lower case. -/
def lowerAscii (s : String) : String :=
  String.ofList (s.toList.map Char.toLower)

/- Fold the ASCII letters of a string to upper case. -/
def upperAscii (s : String) : String :=
  String.ofList (s.toList.map Char.toUpper)

/-
  Cut a text at the first character that satisfies a test;
  the character itself is dropped.
-/
def splitFirst
    (p : Char → Bool)
    (cs : List Char) :
    Option (List Char × List Char) :=
  match cs.dropWhile (fun c => !p c) with
  | [] => none
  | _ :: rest => some (cs.takeWhile (fun c => !p c), rest)

/- A text is cut at the first character that satisfies a test. -/
theorem splitFirst_eq_some
    {p : Char → Bool}
    {before : List Char}
    (hBefore : ∀ c ∈ before, p c = false)
    {c : Char}
    (hc : p c = true)
    (behind : List Char) :
    splitFirst p (before ++ c :: behind) = some (before, behind) := by
  have hKept : ∀ d ∈ before, (!p d) = true := by
    intro d hd
    simp [hBefore d hd]
  simp [splitFirst, List.dropWhile_append_of_pos hKept,
    List.takeWhile_append_of_pos hKept, hc]

/- A text in which nothing satisfies the test is not cut. -/
theorem splitFirst_eq_none
    {p : Char → Bool}
    {cs : List Char}
    (h : ∀ c ∈ cs, p c = false) : splitFirst p cs = none := by
  have hNothing : cs.dropWhile (fun c => !p c) = [] := by
    induction cs with
    | nil => rfl
    | cons c cs ih =>
        rw [List.forall_mem_cons] at h
        rw [List.dropWhile_cons, h.1, Bool.not_false, if_pos rfl,
          ih h.2]
  rw [splitFirst, hNothing]

/- Cut a text at every occurrence of a character. -/
def splitAll
    (sep : Char) :
    List Char → List (List Char)
| [] => [[]]
| c :: cs =>
    if c = sep then
      [] :: splitAll sep cs
    else
      match splitAll sep cs with
      | [] => [[c]]
      | first :: rest => (c :: first) :: rest

/- A text without a start that it has, if it has it. -/
def dropStart? :
    List Char → List Char → Option (List Char)
| [], cs => some cs
| _ :: _, [] => none
| p :: ps, c :: cs =>
    if p = c then dropStart? ps cs else none

/- A start can be dropped exactly if the text begins with it. -/
theorem dropStart?_eq_some_iff
    {start cs rest : List Char} :
    dropStart? start cs = some rest ↔ cs = start ++ rest := by
  induction start generalizing cs with
  | nil => simp [dropStart?]
  | cons p ps ih =>
      cases cs with
      | nil => simp [dropStart?]
      | cons c cs =>
          by_cases h : p = c
          · simp [dropStart?, h, ih]
          · have hNe : ¬ c = p := fun e => h e.symm
            simp [dropStart?, h, hNe]

/- Whether a string starts with another. -/
def startsWith
    (start s : String) : Bool :=
  start.toList.isPrefixOf s.toList

/-
  Cut a text at the first occurrence of a mark; the mark itself
  is dropped.
-/
def cutAt? (mark : List Char) :
    List Char → Option (List Char × List Char)
| [] => none
| c :: cs =>
    match dropStart? mark (c :: cs) with
    | some rest => some ([], rest)
    | none => do
        let (before, rest) ← cutAt? mark cs
        return (c :: before, rest)

/- Whether a part occurs in a string. -/
def mentions (s part : String) : Bool :=
  part.isEmpty || (cutAt? part.toList s.toList).isSome

/- A text without an end that it has, if it has it. -/
def dropEnd?
    (ending cs : List Char) : Option (List Char) :=
  (dropStart? ending.reverse cs.reverse).map List.reverse

/- An end can be dropped exactly if the text ends with it. -/
theorem dropEnd?_eq_some_iff
    {ending cs rest : List Char} :
    dropEnd? ending cs = some rest ↔ cs = rest ++ ending := by
  simp only [dropEnd?, Option.map_eq_some_iff, dropStart?_eq_some_iff]
  constructor
  · rintro ⟨back, hBack, rfl⟩
    rw [← List.reverse_inj, hBack, List.reverse_append,
      List.reverse_reverse]
  · rintro rfl
    exact ⟨rest.reverse, List.reverse_append, List.reverse_reverse _⟩

/- Join texts with a separator between neighbours. -/
def joinWith
    (sep : String) : List String → String
| [] => ""
| [s] => s
| s :: rest => s ++ sep ++ joinWith sep rest

/- A text of one character repeated. -/
def repeatChar
    (c : Char)
    (n : Nat) : String :=
  String.ofList (List.replicate n c)

/- A text filled up with blanks in front. -/
def padLeft
    (width : Nat)
    (s : String) : String :=
  repeatChar ' ' (width - s.length) ++ s

/- A text filled up with blanks behind it. -/
def padRight
    (width : Nat)
    (s : String) : String :=
  s ++ repeatChar ' ' (width - s.length)

/- Decimal digits of a number with leading zeros to a width. -/
def padZeros
    (width n : Nat) : String :=
  let digits := toString n
  repeatChar '0' (width - digits.length) ++ digits

end Text

end StorageRouting
