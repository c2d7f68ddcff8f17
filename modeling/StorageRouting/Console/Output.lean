import StorageRouting.Bytes.Basic
import StorageRouting.Document.Json
import StorageRouting.Log
import StorageRouting.Time.Moment

/-
  What commands print, and in which style.

  Key definitions include:
    * `Channel`
    * `LogEntry.text`
    * `LogOptions.line`
    * `Output`
    * `Screen`
    * `Role`
    * `Formatter`
    * `Formatter.paint`
    * `Formatter.success`
    * `Formatter.error`
-/

------------------------------------------------------------
-- Channels and Styles
------------------------------------------------------------

namespace StorageRouting

/- Where something is printed: the results or the messages. -/
inductive Channel where
| results : Channel
| messages : Channel
deriving DecidableEq, Repr

/- What a piece of text stands for. -/
inductive Role where
| start : Role
| object : Role
| size : Role
| timestamp : Role
| label : Role
| url : Role
| name : Role
| up : Role
| down : Role
deriving DecidableEq, Repr

namespace Role

/- The codes of the style of a role. -/
def codes : Role → List Nat
| .start => [34, 1]
| .object => []
| .size => [32]
| .timestamp => [2]
| .label => [36]
| .url => [36, 4]
| .name => [1]
| .up => [32]
| .down => [31]

end Role

/- What a message is about. -/
inductive Notice where
| success : Notice
| warning : Notice
| error : Notice
deriving DecidableEq, Repr

namespace Notice

/- The mark in front of a message. -/
def mark : Notice → String
| .success => "✓"
| .warning => "⚠"
| .error => "✗"

/- The codes of the style of the mark. -/
def codes : Notice → List Nat
| .success => [32]
| .warning => [33]
| .error => [31]

/- Where a message is printed. -/
def channel : Notice → Channel
| .success => .results
| .warning => .messages
| .error => .messages

end Notice

/- The code that changes the style of what follows. -/
def styleCode (n : Nat) : String :=
  "\x1b[" ++ toString n ++ "m"

/- Text in a style; no codes leave it as it is. -/
def styled
    (codes : List Nat)
    (text : String) : String :=
  if codes.isEmpty then text
  else String.join (codes.map styleCode) ++ text ++ styleCode 0

end StorageRouting

------------------------------------------------------------
-- The Log
------------------------------------------------------------

namespace StorageRouting

namespace LogEntry

/- A field in the line of an entry. -/
def fieldText
    (style : List Nat → String → String)
    (field : String × String) : String :=
  " " ++ style [3] field.1 ++ style [2] "=" ++ field.2

/- An entry in a line, behind its time. -/
def text
    (colors : Bool)
    (moment : Moment)
    (e : LogEntry) : String :=
  let style := fun codes text =>
    if colors then styled codes text else text
  style [2] moment.rfc3339Micros ++ " " ++
    style e.level.codes e.level.word ++ " " ++ e.message ++
    String.join (e.fields.map (fieldText style))

end LogEntry

/- The line of an entry; there is none if it is not shown. -/
def LogOptions.line
    (o : LogOptions)
    (moment : Moment)
    (e : LogEntry) : String :=
  if o.shows e.level then e.text o.colors moment ++ "\n" else ""

end StorageRouting

------------------------------------------------------------
-- Output
------------------------------------------------------------

namespace StorageRouting

/-
  Something printed: a line, a document, bytes as they are, or
  an entry of the log with its time.
-/
inductive Output where
| line
    (channel : Channel)
    (text : String) : Output
| document
    (channel : Channel)
    (value : Value) : Output
| raw (bytes : Bytes) : Output
| log
    (moment : Moment)
    (entry : LogEntry) : Output

namespace Output

/- Where an output is printed. -/
def channel : Output → Channel
| .line c _ => c
| .document c _ => c
| .raw _ => .results
| .log _ _ => .messages

/- What is printed, in bytes. -/
def bytes
    (o : LogOptions) : Output → Bytes
| .line _ text => Bytes.ofString (text ++ "\n")
| .document _ value => Bytes.ofString (Json.pretty value ++ "\n")
| .raw bytes => bytes
| .log moment entry => Bytes.ofString (o.line moment entry)

end Output

/- All that was printed, in order. -/
abbrev Screen :=
  List Output

namespace Screen

/- What was printed on a channel. -/
def on
    (c : Channel)
    (s : Screen) : Screen :=
  s.filter (fun o => o.channel == c)

theorem on_append
    (c : Channel)
    (s t : Screen) : (s ++ t).on c = s.on c ++ t.on c :=
  List.filter_append s t

/- Outputs that are all printed on one channel. -/
theorem on_map_of_channel
    {α : Type}
    {g : α → Output}
    {c : Channel}
    (h : ∀ x, (g x).channel = c)
    (xs : List α) : on c (xs.map g) = xs.map g := by
  apply List.filter_eq_self.mpr
  intro o ho
  rcases List.mem_map.mp ho with ⟨x, _, rfl⟩
  exact beq_iff_eq.mpr (h x)

/- None of them is printed on the other one. -/
theorem on_map_of_other_channel
    {α : Type}
    {g : α → Output}
    {c c' : Channel}
    (h : ∀ x, (g x).channel = c)
    (hOther : c ≠ c')
    (xs : List α) : on c' (xs.map g) = [] := by
  apply List.filter_eq_nil_iff.mpr
  intro o ho hSame
  rcases List.mem_map.mp ho with ⟨x, _, rfl⟩
  exact hOther ((h x).symm.trans (beq_iff_eq.mp hSame))

/- The bytes printed on a channel. -/
def bytesOn
    (o : LogOptions)
    (c : Channel)
    (s : Screen) : Bytes :=
  (s.on c).foldl (fun bytes x => bytes ++ x.bytes o) Bytes.empty

end Screen

end StorageRouting

------------------------------------------------------------
-- Formatters
------------------------------------------------------------

namespace StorageRouting

/-
  How commands print: as documents, without messages that are
  no errors, without colors.
-/
structure Formatter where
  json : Bool
  quiet : Bool
  noColor : Bool
deriving DecidableEq, Repr, Inhabited

namespace Formatter

/- Documents are never in color. -/
def hasColors (f : Formatter) : Bool :=
  !(f.noColor || f.json)

/- Text in a style, if there are colors. -/
def apply
    (f : Formatter)
    (codes : List Nat)
    (text : String) : String :=
  if f.hasColors then styled codes text else text

/- Text in the style of its role. -/
def paint
    (f : Formatter)
    (role : Role)
    (text : String) : String :=
  f.apply role.codes text

/- Text that tells whether something is up. -/
def paintStatus
    (f : Formatter)
    (text : String)
    (up : Bool) : String :=
  f.paint (if up then .up else .down) text

/- A message behind its mark. -/
def notice
    (f : Formatter)
    (n : Notice)
    (text : String) : Screen :=
  [.line n.channel (f.apply n.codes n.mark ++ " " ++ text)]

/- Confirm an action; nothing in quiet mode and for documents. -/
def success
    (f : Formatter)
    (text : String) : Screen :=
  if f.quiet || f.json then [] else f.notice .success text

/- Warn of something; nothing in quiet mode and for documents. -/
def warning
    (f : Formatter)
    (text : String) : Screen :=
  if f.quiet || f.json then [] else f.notice .warning text

/- Tell of an error, as a document when documents are printed. -/
def error
    (f : Formatter)
    (text : String) : Screen :=
  if f.json then
    [.document .messages (.object [("error", .string text)])]
  else f.notice .error text

/- Print a document. -/
def document (value : Value) : Screen :=
  [.document .results value]

/- Print a line, but not in quiet mode. -/
def line
    (f : Formatter)
    (text : String) : Screen :=
  if f.quiet then [] else [.line .results text]

end Formatter

end StorageRouting
