import StorageRouting.Number.Decimal
import StorageRouting.Routing.Invocation

/-
  Path expressions over the arguments of a call, such as
  "#user.shards[1]" and "#root.method".

  Key definitions include:
    * `Expression`
    * `Expression.parse?`
    * `Expression.eval?`
    * `Expression.render?`
    * `Expression.key?`
-/

------------------------------------------------------------
-- Expressions
------------------------------------------------------------

namespace StorageRouting

/- One step of a path. -/
inductive Segment where
| field (name : String) : Segment
| index (n : Nat) : Segment
deriving DecidableEq, Repr

/- A variable and a path into its value. -/
structure Expression where
  root : String
  path : List Segment
deriving DecidableEq, Repr

end StorageRouting

------------------------------------------------------------
-- Reading
------------------------------------------------------------

namespace StorageRouting

namespace Expression

/- The characters of an identifier. -/
def isIdentChar (c : Char) : Bool :=
  c.isAlphanum || c == '_'

/- The text of an index, which may have blanks around it. -/
def index? (cs : List Char) : Option Nat :=
  Decimal.unsigned64? (Text.trimChars cs)

/- What follows the first occurrence of a bracket is shorter. -/
theorem length_drop_dropWhile_le
    (p : Char → Bool)
    (n : Nat)
    (cs : List Char) :
    ((cs.dropWhile p).drop n).length ≤ cs.length :=
  Nat.le_trans (List.drop_sublist _ _).length_le
    (List.dropWhile_sublist _).length_le

/-
  The segments of a path: a dot and an identifier, or an index
  in brackets, of which the last one need not be closed.
-/
def path? : List Char → Option (List Segment)
| [] => some []
| '.' :: cs =>
    let name := cs.takeWhile isIdentChar
    if name.isEmpty then none
    else
      (path? ((cs.dropWhile isIdentChar).drop 0)).map
        (.field (String.ofList name) :: ·)
| '[' :: cs =>
    match index? (cs.takeWhile (· ≠ ']')) with
    | none => none
    | some n =>
        (path? ((cs.dropWhile (· ≠ ']')).drop 1)).map
          (.index n :: ·)
| _ => none
termination_by cs => cs.length
decreasing_by
  all_goals
    exact Nat.lt_succ_of_le (length_drop_dropWhile_le _ _ _)

/- An identifier and a path. -/
def body? (cs : List Char) : Option Expression :=
  let root := cs.takeWhile isIdentChar
  if root.isEmpty then none
  else
    (path? (cs.dropWhile isIdentChar)).map
      (fun path => ⟨String.ofList root, path⟩)

/- An expression behind its mark, with blanks around it. -/
def parse? (key : String) : Option Expression :=
  match key.toList with
  | '#' :: cs => body? (Text.trimChars cs)
  | _ => none

end Expression

end StorageRouting

------------------------------------------------------------
-- Evaluation
------------------------------------------------------------

namespace StorageRouting

namespace Expression

/- Follow a path into a value. -/
def follow? (v : Value) : List Segment → Option Value
| [] => some v
| .field name :: rest =>
    match v.field? name with
    | some w => follow? w rest
    | none => none
| .index n :: rest =>
    match v.item? n with
    | some w => follow? w rest
    | none => none

/- The position that a name such as p0 or a12 stands for. -/
def position? (root : String) : Option Nat :=
  match root.toList with
  | c :: digits =>
      if c = 'p' ∨ c = 'a' then Decimal.digits64? digits
      else none
  | [] => none

/- The value of the variable of an expression. -/
def rootValue?
    (i : Invocation)
    (root : String) : Option Value :=
  match i.argument? root with
  | some v => some v
  | none =>
      match position? root with
      | some n => i.positional? n
      | none => none

/- The value of a path into the call itself. -/
def call?
    (i : Invocation) : List Segment → Option Value
| .field name :: rest =>
    if name = "method" then follow? (.string i.method) rest
    else if name = "args" then
      follow? (.array (i.args.map Prod.snd)) rest
    else none
| _ => none

/- The value of an expression. -/
def eval?
    (e : Expression)
    (i : Invocation) : Option Value :=
  if e.root = "root" then call? i e.path
  else
    match rootValue? i e.root with
    | some v => follow? v e.path
    | none => none

/- The routing key that a value stands for. -/
def render? : Value → Option String
| .string s => if s.isEmpty then none else some s
| .int n => some (toString n)
| .double d => some d.text
| .bool true => some "true"
| .bool false => some "false"
| _ => none

/- The routing key that the text of an expression leads to. -/
def key?
    (i : Invocation)
    (key : String) : Option String :=
  match parse? key with
  | some e => (e.eval? i).bind render?
  | none => none

end Expression

end StorageRouting
