import StorageRouting.Document.Value
import StorageRouting.Number.Width

/-
  Reading records out of dynamic values.  A record is written
  as an object, or as an array of its fields in declared order.

  Key definitions include:
    * `Record.Fields`
    * `Record.fields?`
    * `Record.Fields.required`
    * `Record.Fields.optional`
    * `Record.Fields.orElse`
    * `Record.variant?`
-/

------------------------------------------------------------
-- Plain Values
------------------------------------------------------------

namespace StorageRouting

namespace Value

/- The text of a string. -/
def toString? : Value → Option String
| .string s => some s
| _ => none

/- The truth value. -/
def toBool? : Value → Option Bool
| .bool b => some b
| _ => none

/- An integer that fits in 64 bits with a sign. -/
def toInt64? : Value → Option Int
| .int n => if Width.isSigned 64 n then some n else none
| _ => none

/- All elements of an array, each read in the same way. -/
def toList?
    {α : Type}
    (read : Value → Option α)
    (v : Value) : Option (List α) :=
  match v with
  | .array items => items.mapM read
  | _ => none

end Value

end StorageRouting

------------------------------------------------------------
-- Records
------------------------------------------------------------

namespace StorageRouting

namespace Record

/-
  The fields of a record that are present.  In the positional
  form only fields with a default may be missing.
-/
structure Fields where
  present : List (String × Value)
  positional : Bool

/-
  The fields of a record with the given names.  A date stands
  for a record without known fields.  Surplus elements of the
  positional form are passed over when `lenient` holds.
-/
def fields?
    (names : List String)
    (lenient : Bool) :
    Value → Option Fields
| .object fields => some ⟨fields, false⟩
| .stamp _ => some ⟨[], false⟩
| .array items =>
    if items.length ≤ names.length ∨ lenient then
      some ⟨names.zip items, true⟩
    else none
| _ => none

namespace Fields

variable {α : Type}

/- A field that must be present. -/
def required
    (fs : Fields)
    (name : String)
    (read : Value → Option α) : Option α :=
  match fs.present.lookup name with
  | some v => read v
  | none => none

/- A field that has a value when it is missing. -/
def orElse
    (fs : Fields)
    (name : String)
    (default : α)
    (read : Value → Option α) : Option α :=
  match fs.present.lookup name with
  | some v => read v
  | none => some default

/- Read null as nothing. -/
def nullable
    (read : Value → Option α)
    (v : Value) : Option (Option α) :=
  match v with
  | .null => some none
  | v => (read v).map some

/-
  A field that may be null, and may be missing when fields
  are named.
-/
def optional
    (fs : Fields)
    (name : String)
    (read : Value → Option α) : Option (Option α) :=
  match fs.present.lookup name with
  | some v => nullable read v
  | none => if fs.positional then none else some none

/- A field that may be null or missing. -/
def optionalOrElse
    (fs : Fields)
    (name : String)
    (read : Value → Option α) : Option (Option α) :=
  fs.orElse name none (nullable read)

end Fields

/-
  The name of a variant without content: a string, or an
  object with the name as its only field, which is null.
-/
def variant? : Value → Option String
| .string s => some s
| .object [(s, .null)] => some s
| _ => none

end Record

end StorageRouting
