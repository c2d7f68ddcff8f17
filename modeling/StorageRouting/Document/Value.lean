import StorageRouting.Number.Binary64

/-
  Dynamic values: the common form of JSON and TOML documents.

  Key definitions include:
    * `Value`
    * `Value.field?`
    * `Value.insertField`
    * `Value.sorted`
-/

------------------------------------------------------------
-- The Type
------------------------------------------------------------

namespace StorageRouting

/-
  A dynamic value.  Objects keep their fields in the order of
  the list; `stamp` is a date or time, which only TOML has.
-/
inductive Value where
| null : Value
| bool (b : Bool) : Value
| int (n : Int) : Value
| double (d : Binary64) : Value
| string (s : String) : Value
| stamp (text : String) : Value
| array (items : List Value) : Value
| object (fields : List (String × Value)) : Value
deriving Repr, BEq

namespace Value

instance : Inhabited Value :=
  ⟨.null⟩

/- The field of an object; `none` for other values. -/
def field?
    (v : Value)
    (name : String) : Option Value :=
  match v with
  | .object fields => fields.lookup name
  | _ => none

/- The element of an array; `none` for other values. -/
def item?
    (v : Value)
    (i : Nat) : Option Value :=
  match v with
  | .array items => items[i]?
  | _ => none

/-
  Put a field into a list of fields that is sorted by name,
  in place of one of the same name.
-/
def insertField
    (name : String)
    (v : Value) :
    List (String × Value) → List (String × Value)
| [] => [(name, v)]
| (k, w) :: rest =>
    if name = k then (name, v) :: rest
    else if name < k then (name, v) :: (k, w) :: rest
    else (k, w) :: insertField name v rest

/- Fields by ascending name, the last of each name. -/
def sortFields
    (fields : List (String × Value)) :
    List (String × Value) :=
  fields.foldl (fun acc f => insertField f.1 f.2 acc) []

/- An object with its fields in ascending order. -/
def sorted
    (fields : List (String × Value)) : Value :=
  .object (sortFields fields)

mutual

/- A value in which the fields of all objects are in order. -/
def ordered : Value → Value
| .array items => .array (orderedItems items)
| .object fields => sorted (orderedFields fields)
| v => v

/- Values with their fields in order. -/
def orderedItems : List Value → List Value
| [] => []
| v :: vs => ordered v :: orderedItems vs

/- Fields whose values have their fields in order. -/
def orderedFields :
    List (String × Value) → List (String × Value)
| [] => []
| (k, v) :: fs => (k, ordered v) :: orderedFields fs

end

/- A string or nothing. -/
def ofString? : Option String → Value
| none => .null
| some s => .string s

/- A list of strings. -/
def ofStrings (ss : List String) : Value :=
  .array (ss.map .string)

/- A natural number as a value. -/
def nat (n : Nat) : Value :=
  .int n

/- An optional field: present only when there is a value. -/
def optional
    (name : String)
    (v : Option Value) : List (String × Value) :=
  match v with
  | none => []
  | some v => [(name, v)]

end Value

end StorageRouting
