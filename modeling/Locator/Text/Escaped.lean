import Locator.Text.GraphemeExtend
import Locator.Text.Pieces
import Locator.Text.Unprintable

/-!
# Text made visible

A text between double quotes in which everything that would not be seen, or that would be mistaken for
something else, is escaped.
-/

namespace Locator.Text

set_option autoImplicit false

/-- A character as it stands in escaped text. -/
def visible (character : Char) : String :=
  if character = '\x00' then "\\0"
  else if character = '\t' then "\\t"
  else if character = '\r' then "\\r"
  else if character = '\n' then "\\n"
  else if character = '"' then "\\\""
  else if character = '\\' then "\\\\"
  else if extendsGrapheme character || isUnprintable character then
    "\\u\x7b" ++ String.ofList (Nat.toDigits 16 character.toNat) ++ "\x7d"
  else String.singleton character

/-- A text as escaped text with its quotes. -/
def escaped (text : String) : String :=
  "\"" ++ String.join (text.toList.map visible) ++ "\""

/-- A list of texts as escaped texts between brackets. -/
def escapedList (texts : List String) : String :=
  "[" ++ join ", " (texts.map escaped) ++ "]"

end Locator.Text
