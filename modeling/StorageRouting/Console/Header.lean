import StorageRouting.Text.Blank

/-
  Header options: a name and a value in one argument.

  Key definitions include:
    * `HeaderOption.parse`
-/

------------------------------------------------------------
-- Header Options
------------------------------------------------------------

namespace StorageRouting

namespace HeaderOption

/-
  Cut an argument at its first "=" or, when it has none, at
  its first ":".
-/
def cut? (cs : List Char) : Option (List Char × List Char) :=
  match Text.splitFirst (· == '=') cs with
  | some parts => some parts
  | none => Text.splitFirst (· == ':') cs

/- Read an argument of the form NAME=VALUE or NAME:VALUE. -/
def parse (raw : String) : Except String (String × String) :=
  match cut? raw.toList with
  | none =>
      .error ("Invalid header '" ++ raw ++
        "', expected NAME=VALUE")
  | some (name, value) =>
      let name := Text.trimChars name
      if name.isEmpty then
        .error ("Invalid header '" ++ raw ++
          "', name is empty")
      else
        .ok (String.ofList name,
          String.ofList (Text.trimChars value))

end HeaderOption

end StorageRouting
