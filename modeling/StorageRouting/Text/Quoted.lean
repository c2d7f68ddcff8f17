import StorageRouting.Text.Blank
import StorageRouting.Text.Hex
import StorageRouting.Text.Printable

/-
  Texts between quotation marks for diagnostic output.

  Key definitions include:
    * `Text.quoted`
    * `Text.quotedList`
-/

------------------------------------------------------------
-- Quoting
------------------------------------------------------------

namespace StorageRouting

namespace Text

/-
  A character inside a diagnostic quotation: short escapes
  where there are some, the code in braces when the character
  has no visible form.
-/
def quotedChar (c : Char) : List Char :=
  if c.toNat = 0 then ['\\', '0']
  else if c = '\t' then ['\\', 't']
  else if c = '\r' then ['\\', 'r']
  else if c = '\n' then ['\\', 'n']
  else if c = '"' then ['\\', '"']
  else if c = '\\' then ['\\', '\\']
  else if isPrintable c then [c]
  else
    '\\' :: 'u' :: '\x7b' :: Hex.digits 8 c.toNat ++ ['\x7d']

/- A text between quotation marks. -/
def quoted (s : String) : String :=
  String.ofList
    ('"' :: s.toList.flatMap quotedChar ++ ['"'])

/- A list of quoted texts between brackets. -/
def quotedList (ss : List String) : String :=
  "[" ++ joinWith ", " (ss.map quoted) ++ "]"

/- An optional text, quoted. -/
def quotedOption : Option String → String
| none => "None"
| some s => "Some(" ++ quoted s ++ ")"

/- The words for truth values. -/
def boolWord : Bool → String
| true => "true"
| false => "false"

end Text

end StorageRouting
