import StorageRouting.Document.Xml.Text

/-
  XML documents as sequences of tags and texts.

  Key definitions include:
    * `Xml.Tag`
    * `Xml.Token`
    * `Xml.tokens`
-/

------------------------------------------------------------
-- Tokens
------------------------------------------------------------

namespace StorageRouting

namespace Xml

/- The name of a tag, and the name of its space. -/
structure TagName where
  space : String
  name : String
deriving DecidableEq, Repr

/-
  An opening tag.  `depth` counts the tags that are open around
  it, and `readable` tells whether its attributes can be read.
-/
structure Tag where
  name : TagName
  depth : Nat
  empty : Bool
  readable : Bool
deriving DecidableEq, Repr

/-
  A part of a document.  A text is kept as it is written.
  Nothing follows a broken part.
-/
inductive Token where
| opening (tag : Tag) : Token
| closing
    (name : TagName)
    (depth : Nat) : Token
| text (written : String) : Token
| broken : Token
deriving DecidableEq, Repr

end Xml

end StorageRouting

------------------------------------------------------------
-- Parts of Tags
------------------------------------------------------------

namespace StorageRouting

namespace Xml

/- Drop white space. -/
def skipSpaces (cs : List Char) : List Char :=
  cs.dropWhile isSpace

/- Whether a name begins as names do. -/
def beginsName : List Char → Bool
| c :: _ => isNameStart c
| [] => false

/- A name with at most one colon, which ends its space. -/
def takeName?
    (cs : List Char) : Option (TagName × List Char) :=
  let run := cs.takeWhile isNameChar
  let rest := cs.dropWhile isNameChar
  match Text.splitAll ':' run with
  | [name] =>
      if beginsName name then
        some (⟨"", String.ofList name⟩, rest)
      else none
  | [space, name] =>
      if (space.isEmpty || beginsName space) && beginsName name then
        some (⟨String.ofList space, String.ofList name⟩, rest)
      else none
  | _ => none

/- Text up to a character; all characters must be legal. -/
def takeLegal?
    (stop : Char → Bool)
    (cs : List Char) : Option (List Char × List Char) :=
  let run := cs.takeWhile (fun c => !stop c)
  if run.all isLegal then
    some (run, cs.dropWhile (fun c => !stop c))
  else none

/- An equals sign and a value in quotes. -/
def takeValue?
    (cs : List Char) : Option (List Char × List Char) :=
  match skipSpaces cs with
  | '=' :: rest =>
      match skipSpaces rest with
      | quote :: rest =>
          if quote = '"' ∨ quote = '\'' then
            match takeLegal?
                (fun c => c == quote || c == '<') rest with
            | some (value, c :: rest) =>
                if c = quote then some (value, rest) else none
            | _ => none
          else none
      | [] => none
  | _ => none

/-
  Attributes up to the end of a tag: whether all their values
  can be read, whether the tag is empty, and what follows.
-/
def takeAttributes? :
    Nat → List Char → Option (Bool × Bool × List Char)
| 0, _ => none
| fuel + 1, cs =>
    match skipSpaces cs with
    | '/' :: '>' :: rest => some (true, true, rest)
    | '>' :: rest => some (true, false, rest)
    | cs => do
        let (_, cs) ← takeName? cs
        let (value, cs) ← takeValue? cs
        let (readable, empty, cs) ← takeAttributes? fuel cs
        let fine := (unescape? (String.ofList value)).isSome
        return (fine && readable, empty, cs)

/- A closing tag behind its first two characters. -/
def takeClosing?
    (cs : List Char) : Option (TagName × List Char) := do
  let (name, cs) ← takeName? cs
  match skipSpaces cs with
  | '>' :: rest => some (name, rest)
  | _ => none

end Xml

end StorageRouting

------------------------------------------------------------
-- Skipped Parts
------------------------------------------------------------

namespace StorageRouting

namespace Xml

/- Skip a comment behind its opening. -/
def skipComment? (cs : List Char) : Option (List Char) := do
  let (body, rest) ← Text.cutAt? "-->".toList cs
  let inner := (Text.cutAt? "--".toList body).isNone
  if body.all isLegal && inner && body.getLast? != some '-' then
    some rest
  else none

/- Skip an instruction to a program behind its opening. -/
def skipInstruction? (cs : List Char) : Option (List Char) := do
  let name := cs.takeWhile isNameChar
  let (body, rest) ← Text.cutAt? "?>".toList (cs.dropWhile isNameChar)
  if beginsName name && body.all isLegal then some rest else none

/- Skip text that holds no markup, behind its opening. -/
def skipLiteral? (cs : List Char) : Option (List Char) := do
  let (body, rest) ← Text.cutAt? "]]>".toList cs
  if body.all isLegal then some rest else none

/- Skip a declaration of the type of a document. -/
def skipDoctype? (cs : List Char) : Option (List Char) :=
  let head := cs.takeWhile (fun c => c ≠ '[' ∧ c ≠ '>')
  match cs.drop head.length with
  | '>' :: rest => some rest
  | '[' :: rest => do
      let (_, rest) ← Text.cutAt? "]".toList rest
      match skipSpaces rest with
      | '>' :: rest => some rest
      | _ => none
  | _ => none

/- A keyword with a value in quotes that satisfies a test. -/
def takeKeyword?
    (keyword : List Char)
    (fits : List Char → Bool)
    (cs : List Char) : Option (List Char) := do
  let cs ← Text.dropStart? keyword cs
  let (value, cs) ← takeValue? cs
  if fits value then some cs else none

/- A version of the format: one, a point and digits. -/
def isVersion : List Char → Bool
| '1' :: '.' :: digits => digits.all Char.isDigit
| _ => false

/- Skip the declaration of the format behind its opening. -/
def skipDeclaration? (cs : List Char) : Option (List Char) := do
  let cs ← takeKeyword? "version".toList isVersion (skipSpaces cs)
  let cs := skipSpaces cs
  let cs := skipSpaces
    ((takeKeyword? "encoding".toList (fun _ => true) cs).getD cs)
  let cs := skipSpaces
    ((takeKeyword? "standalone".toList
      (fun v => v == "yes".toList || v == "no".toList) cs).getD cs)
  Text.dropStart? "?>".toList cs

/- Skip what may stand between the parts of a document. -/
def skipOne? (cs : List Char) : Option (Option (List Char)) :=
  match cs with
  | '<' :: '!' :: '-' :: '-' :: rest => some (skipComment? rest)
  | '<' :: '?' :: rest =>
      if (Text.dropStart? "xml ".toList rest).isSome then some none
      else some (skipInstruction? rest)
  | _ => none

end Xml

end StorageRouting

------------------------------------------------------------
-- Reading Tokens
------------------------------------------------------------

namespace StorageRouting

namespace Xml

/- The number of tags that are open after a tag. -/
def depthAfter
    (tag : Tag) : Nat :=
  if tag.empty then tag.depth else tag.depth + 1

/- The opening tag behind its first character. -/
def takeOpening?
    (depth : Nat)
    (cs : List Char) : Option (Tag × List Char) := do
  let (name, cs) ← takeName? cs
  let (readable, empty, cs) ← takeAttributes? (cs.length + 1) cs
  return ({ name, depth, empty, readable }, cs)

/-
  The tokens of an element's content, so many tags deep; the
  document ends with its outermost element.
-/
def contentTokens : Nat → Nat → List Char → List Token
| 0, _, _ => []
| _, _, [] => []
| fuel + 1, depth, '<' :: '/' :: cs =>
    match takeClosing? cs with
    | none => [.broken]
    | some (name, rest) =>
        .closing name (depth - 1) ::
          (if depth ≤ 1 then []
          else contentTokens fuel (depth - 1) rest)
| fuel + 1, depth, '<' :: cs =>
    match skipOne? ('<' :: cs) with
    | some (some rest) => contentTokens fuel depth rest
    | some none => [.broken]
    | none =>
        match Text.dropStart? "![CDATA[".toList cs with
        | some inner =>
            match skipLiteral? inner with
            | some rest => contentTokens fuel depth rest
            | none => [.broken]
        | none =>
            match takeOpening? depth cs with
            | none => [.broken]
            | some (tag, rest) =>
                .opening tag ::
                  (if depthAfter tag = 0 then []
                  else contentTokens fuel (depthAfter tag) rest)
| fuel + 1, depth, cs =>
    match takeLegal? (· == '<') cs with
    | none => [.broken]
    | some (written, rest) =>
        if (Text.cutAt? "]]>".toList written).isSome then [.broken]
        else
          .text (String.ofList written) ::
            contentTokens fuel depth rest

/- The tokens from what stands before the outermost element. -/
def headTokens : Nat → Bool → List Char → List Token
| 0, _, _ => []
| _, _, [] => []
| fuel + 1, typed, cs =>
    match skipOne? cs with
    | some (some rest) => headTokens fuel typed rest
    | some none => [.broken]
    | none =>
        match cs with
        | '<' :: '!' :: rest =>
            match Text.dropStart? "DOCTYPE".toList rest, typed with
            | some rest, false =>
                match skipDoctype? rest with
                | some rest => headTokens fuel true rest
                | none => [.broken]
            | _, _ => [.broken]
        | '<' :: _ => contentTokens (cs.length + 1) 0 cs
        | c :: rest =>
            if isSpace c then headTokens fuel typed rest
            else [.broken]
        | [] => []

/- The tokens of a document. -/
def tokens (s : String) : List Token :=
  let cs :=
    match s.toList with
    | '\ufeff' :: rest => rest
    | cs => cs
  match Text.dropStart? "<?xml ".toList cs with
  | some rest =>
      match skipDeclaration? rest with
      | some rest => headTokens (rest.length + 1) false rest
      | none => [.broken]
  | none => headTokens (cs.length + 1) false cs

end Xml

end StorageRouting
