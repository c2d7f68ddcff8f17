import StorageRouting.Dictionary
import StorageRouting.Document.Value
import StorageRouting.Log
import StorageRouting.Number.Width
import StorageRouting.Text.Quoted

/-
  Calls as routing sees them: method, arguments, headers and
  session attributes.

  Key definitions include:
    * `Header.isName`
    * `Header.isValue`
    * `Invocation`
    * `Invocation.header`
    * `Invocation.headerText?`
-/

------------------------------------------------------------
-- Headers
------------------------------------------------------------

namespace StorageRouting

namespace Header

/- The characters of a header name. -/
def isNameChar (c : Char) : Bool :=
  c.isAlphanum || "!#$%&'*+-.^_|~".toList.contains c ||
    c.toNat == 0x60

/- A header name: a token of bounded length. -/
def isName (name : String) : Bool :=
  !name.isEmpty && name.toList.all isNameChar &&
    Width.isUnsigned 16 name.length

/-
  A header value has no control characters of ASCII but the
  tab.
-/
def isValue (value : String) : Bool :=
  value.toList.all
    (fun c => (32 ≤ c.toNat && c.toNat ≠ 127) || c == '\t')

/- A header value that reads as text: printed ASCII and tabs. -/
def isPlain (value : String) : Bool :=
  value.toList.all
    (fun c => (32 ≤ c.toNat && c.toNat < 127) || c == '\t')

end Header

end StorageRouting

------------------------------------------------------------
-- Invocations
------------------------------------------------------------

namespace StorageRouting

/-
  One call.  Header names are kept in lower case, in the order
  in which the headers were added.
-/
structure Invocation where
  method : String
  args : List (String × Value)
  headers : List (String × String)
  session : Dictionary String

namespace Invocation

/- A call of a method without anything else. -/
def new (method : String) : Invocation :=
  { method, args := [], headers := []
    session := Dictionary.empty }

instance : Inhabited Invocation :=
  ⟨new ""⟩

/- Add an argument. -/
def arg
    (i : Invocation)
    (name : String)
    (v : Value) : Invocation :=
  { i with args := i.args ++ [(name, v)] }

/- Add a header; one that is not valid is left out. -/
def header
    (i : Invocation)
    (name value : String) : Invocation :=
  if Header.isName name ∧ Header.isValue value then
    { i with
      headers := i.headers ++ [(Text.lowerAscii name, value)] }
  else i

/- Take other headers in place of the present ones. -/
def withHeaders
    (i : Invocation)
    (headers : List (String × String)) : Invocation :=
  headers.foldl (fun i h => i.header h.1 h.2)
    { i with headers := [] }

/- What is logged of a header that is left out. -/
def headerWarning (name : String) : LogEntry where
  level := .warning
  message := "Ignoring invalid header on invocation"
  fields := [("header", Text.quoted name)]

/- What is logged of headers when they are added. -/
def headerWarnings
    (headers : List (String × String)) : List LogEntry :=
  headers.filterMap (fun h =>
    if Header.isName h.1 ∧ Header.isValue h.2 then none
    else some (headerWarning h.1))

/- Set a session attribute. -/
def sessionValue
    (i : Invocation)
    (name value : String) : Invocation :=
  { i with session := i.session.insert name value }

/- The first argument of a name. -/
def argument?
    (i : Invocation)
    (name : String) : Option Value :=
  i.args.lookup name

/- The argument at a position. -/
def positional?
    (i : Invocation)
    (n : Nat) : Option Value :=
  (i.args[n]?).map Prod.snd

/-
  The text of the first header of a name in any letter case;
  nothing when it does not read as text.
-/
def headerText?
    (i : Invocation)
    (name : String) : Option String :=
  match i.headers.lookup (Text.lowerAscii name) with
  | some value => if Header.isPlain value then some value else none
  | none => none

end Invocation

end StorageRouting
