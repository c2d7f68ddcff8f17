import StorageRouting.Document.Toml.Quoted
import StorageRouting.Document.Value

/-
  Documents as TOML: plain fields first, then a table for each
  object.

  Key definitions include:
    * `Toml.inline`
    * `Toml.tableText`
    * `Toml.render`
-/

------------------------------------------------------------
-- Values on One Line
------------------------------------------------------------

namespace StorageRouting

namespace Toml

/- A number as TOML writes it. -/
def doubleText : Binary64 → String
| .notANumber => "nan"
| .infinite false => "inf"
| .infinite true => "-inf"
| d => d.text

mutual

/- A value on one line. -/
def inline : Value → String
| .null => "\"\""
| .bool b => if b then "true" else "false"
| .int n => toString n
| .double d => doubleText d
| .string s => stringText s
| .stamp s => s
| .array items => "[" ++ inlineItems items ++ "]"
| .object fields => "\x7b " ++ inlineFields fields ++ " \x7d"

/- Elements separated by commas. -/
def inlineItems : List Value → String
| [] => ""
| [v] => inline v
| v :: rest => inline v ++ ", " ++ inlineItems rest

/- Fields separated by commas. -/
def inlineFields : List (String × Value) → String
| [] => ""
| [(k, v)] => keyText k ++ " = " ++ inline v
| (k, v) :: rest =>
    keyText k ++ " = " ++ inline v ++ ", " ++ inlineFields rest

end

end Toml

end StorageRouting

------------------------------------------------------------
-- Tables
------------------------------------------------------------

namespace StorageRouting

namespace Toml

/-
  The fields of a table that are not tables, a line each; null
  has no line.
-/
def plainLines :
    List (String × Value) → List String
| [] => []
| (_, .null) :: rest => plainLines rest
| (_, .object _) :: rest => plainLines rest
| (k, v) :: rest =>
    (keyText k ++ " = " ++ inline v) :: plainLines rest

/-
  Whether a table needs a header of its own: it has plain
  fields, or nothing at all.
-/
def needsHeader (fields : List (String × Value)) : Bool :=
  fields.isEmpty || !(plainLines fields).isEmpty

mutual

/- The lines of a table below its path. -/
def tableLines
    (path : List String) : Value → List String
| .object fields =>
    (if needsHeader fields then
      ["", "[" ++ pathText path ++ "]"] ++ plainLines fields
    else []) ++ subtableLines path fields
| _ => []

/- The lines of the tables among some fields. -/
def subtableLines
    (path : List String) :
    List (String × Value) → List String
| [] => []
| (k, v) :: rest =>
    tableLines (path ++ [k]) v ++ subtableLines path rest

end

/- A document with the given fields at its top. -/
def render (fields : List (String × Value)) : String :=
  let lines := plainLines fields ++ subtableLines [] fields
  String.join (lines.map (fun line => line ++ "\n"))

end Toml

end StorageRouting
