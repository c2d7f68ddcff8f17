import StorageRouting.Document.Value

/-
  Tables under construction.  Each table remembers how it came
  into being, because that decides how it can be extended.

  Key definitions include:
    * `Toml.Origin`
    * `Toml.Node`
    * `Toml.Node.toValue`
    * `Toml.assign?`
    * `Toml.openTable?`
    * `Toml.openElement?`
-/

------------------------------------------------------------
-- Nodes
------------------------------------------------------------

namespace StorageRouting

namespace Toml

/-
  How a table came into being: by a header of its own, as a
  parent in a header, or as a parent in a dotted key.
-/
inductive Origin where
| header : Origin
| implied : Origin
| dotted : Origin
deriving DecidableEq, Repr

/-
  A node of a document: a finished value, a table, or an array
  of tables, of which only the last can still be extended.
-/
inductive Node where
| value (v : Value) : Node
| table
    (origin : Origin)
    (fields : List (String × Node)) : Node
| elements
    (earlier : List Value)
    (last : List (String × Node)) : Node

mutual

/- The value of a node. -/
def Node.toValue : Node → Value
| .value v => v
| .table _ fields => .object (fieldValues fields)
| .elements earlier last =>
    .array (earlier ++ [.object (fieldValues last)])

/- The values of some fields. -/
def fieldValues :
    List (String × Node) → List (String × Value)
| [] => []
| (k, n) :: rest => (k, n.toValue) :: fieldValues rest

end

/- A path to a field: its parents, and its own key. -/
structure KeyPath where
  parents : List String
  key : String

/- All keys of a path. -/
def KeyPath.keys (p : KeyPath) : List String :=
  p.parents ++ [p.key]

end Toml

end StorageRouting

------------------------------------------------------------
-- Extending Tables
------------------------------------------------------------

namespace StorageRouting

namespace Toml

/- Put a node in place of the one with the same key. -/
def replaceField
    (key : String)
    (n : Node) :
    List (String × Node) → List (String × Node)
| [] => [(key, n)]
| (k, m) :: rest =>
    if k = key then (key, n) :: rest
    else (k, m) :: replaceField key n rest

/-
  Change the table at the end of a path.  Missing tables come
  into being on the way; a dotted key cannot pass through a
  table that has a header of its own.
-/
def within?
    (origin : Origin)
    (change :
      Origin → List (String × Node) →
        Option (List (String × Node))) :
    List String → Origin → List (String × Node) →
      Option (List (String × Node))
| [], here, fields => change here fields
| key :: path, _, fields => do
    let n ←
      match fields.lookup key with
      | none => do
          let inner ← within? origin change path origin []
          some (Node.table origin inner)
      | some (.table here inner) =>
          if origin = .dotted ∧ here = .header then none
          else do
            let inner ← within? origin change path here inner
            some (Node.table here inner)
      | some (.elements earlier last) => do
          let last ← within? origin change path .header last
          some (Node.elements earlier last)
      | some (.value _) => none
    return replaceField key n fields

/-
  Put a value under a dotted key of a table.  The key must be
  new, and its table must be the current one or one that
  dotted keys have made.
-/
def assign?
    (p : KeyPath)
    (v : Value)
    (here : Origin)
    (fields : List (String × Node)) :
    Option (List (String × Node)) :=
  within? .dotted
    (fun owner fields =>
      if decide (owner = .dotted) == p.parents.isEmpty then none
      else
        match fields.lookup p.key with
        | none => some (fields ++ [(p.key, .value v)])
        | some _ => none)
    p.parents here fields

/-
  Open the table of a header; it must be new, or known only as
  a parent.
-/
def openTable?
    (p : KeyPath)
    (fields : List (String × Node)) :
    Option (List (String × Node)) :=
  within? .implied
    (fun _ fields =>
      match fields.lookup p.key with
      | none => some (fields ++ [(p.key, .table .header [])])
      | some (.table .implied inner) =>
          some (replaceField p.key (.table .header inner) fields)
      | some _ => none)
    p.parents .header fields

/- Open a new element of the array of tables of a header. -/
def openElement?
    (p : KeyPath)
    (fields : List (String × Node)) :
    Option (List (String × Node)) :=
  within? .implied
    (fun _ fields =>
      match fields.lookup p.key with
      | none => some (fields ++ [(p.key, .elements [] [])])
      | some (.elements earlier last) =>
          let n :=
            Node.elements
              (earlier ++ [.object (fieldValues last)]) []
          some (replaceField p.key n fields)
      | some _ => none)
    p.parents .header fields

end Toml

end StorageRouting
