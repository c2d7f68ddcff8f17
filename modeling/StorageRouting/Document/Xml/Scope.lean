import StorageRouting.Bytes.Basic
import StorageRouting.Document.Xml.Token

/-
  Reading the elements of an XML document in order.

  Key definitions include:
    * `Xml.Scope`
    * `Xml.Scope.child?`
    * `Xml.Scope.text?`
    * `Xml.Scope.foldChildren`
    * `Xml.root?`
-/

------------------------------------------------------------
-- Scopes
------------------------------------------------------------

namespace StorageRouting

namespace Xml

/-
  What is left to read of an element.  Its scope ends with the
  closing tag of its name and depth, or with the document.
-/
structure Scope where
  tag : Tag
  ended : Bool
  rest : List Token

namespace Scope

/- The scope behind an opening tag. -/
def start
    (tag : Tag)
    (rest : List Token) : Scope :=
  ⟨tag, tag.empty, rest⟩

/- Whether a token ends the scope of a tag. -/
def closes (tag : Tag) : Token → Bool
| .closing name depth => name == tag.name && depth == tag.depth
| _ => false

/- What follows the scope of a tag. -/
def restAfter (tag : Tag) : List Token → List Token
| [] => []
| t :: ts => if closes tag t then ts else restAfter tag ts

/- Leave a scope: what follows it. -/
def leave (s : Scope) : List Token :=
  if s.ended then s.rest else restAfter s.tag s.rest

/-
  The next opening tag in a scope, and where reading is then.
  There is none when its attributes cannot be read.
-/
def nextTag
    (tag : Tag) : List Token → Option Tag × Scope
| [] => (none, ⟨tag, true, []⟩)
| t :: ts =>
    if closes tag t then (none, ⟨tag, true, ts⟩)
    else
      match t with
      | .opening inner =>
          (if inner.readable then some inner else none,
            ⟨tag, false, ts⟩)
      | _ => nextTag tag ts

/- The next element in a scope. -/
def child? (s : Scope) : Option Scope × Scope :=
  if s.ended then (none, s)
  else
    match nextTag s.tag s.rest with
    | (none, s) => (none, s)
    | (some inner, s) => (some (start inner s.rest), s)

/-
  The first text in a scope, which an element must not precede;
  it is empty when the scope ends first.
-/
def textFrom?
    (tag : Tag) : List Token → Option (String × Scope)
| [] => some ("", ⟨tag, true, []⟩)
| t :: ts =>
    if closes tag t then some ("", ⟨tag, true, ts⟩)
    else
      match t with
      | .text written =>
          (unescape? written).map (fun s => (s, ⟨tag, false, ts⟩))
      | .opening _ => none
      | .broken => none
      | .closing _ _ => textFrom? tag ts

/- The text of a scope. -/
def text? (s : Scope) : Option (String × Scope) :=
  if s.ended then some ("", s) else textFrom? s.tag s.rest

/- Whether a scope is that of an element of a name. -/
def isNamed
    (s : Scope)
    (name : String) : Bool :=
  s.tag.name.name == name

/-
  Read the children of a scope in order.  The reading fails
  when that of a child fails.
-/
def foldFrom
    {β : Type}
    (f : β → Scope → Option (β × Scope)) :
    Nat → β → Scope → Option (β × Scope)
| 0, _, _ => none
| fuel + 1, acc, s =>
    match s.child? with
    | (none, s) => some (acc, s)
    | (some inner, s) => do
        let (acc, inner) ← f acc inner
        foldFrom f fuel acc { s with rest := inner.leave }

/- Read the children of a scope in order. -/
def foldChildren
    {β : Type}
    (f : β → Scope → Option (β × Scope))
    (acc : β)
    (s : Scope) : Option (β × Scope) :=
  foldFrom f (s.rest.length + 1) acc s

end Scope

/- The outermost element of a document. -/
def root? (s : String) : Option Scope :=
  match Scope.nextTag ⟨⟨"", ""⟩, 0, false, true⟩ (tokens s) with
  | (some tag, s) => some (Scope.start tag s.rest)
  | (none, _) => none

/- The outermost element of a document in bytes. -/
def rootOfBytes? (b : Bytes) : Option Scope :=
  b.toString?.bind root?

end Xml

end StorageRouting

------------------------------------------------------------
-- Writing
------------------------------------------------------------

namespace StorageRouting

namespace Xml

/- An element without attributes around written content. -/
def element (name content : String) : String :=
  "<" ++ name ++ ">" ++ content ++ "</" ++ name ++ ">"

/- An element that holds text. -/
def textElement (name content : String) : String :=
  element name (escaped content)

end Xml

end StorageRouting
