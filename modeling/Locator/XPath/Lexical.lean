import Locator.Text.Pieces

/-!
# Names and string values in XPath text

XPath 1.0 string literals have no escapes: a literal ends at the next quote of its own kind. A value
that holds both kinds is therefore written as a `concat` call whose parts hold one kind each. A name
that is not a plain ASCII name is never written as a name test but compared as a string.
-/

namespace Locator.XPath

open Locator.Text

set_option autoImplicit false

/-- The single quote, `U+0027`. -/
def apostrophe : Char := '\x27'

/-- The double quote, `U+0022`. -/
def quotation : Char := '\x22'

/-- The text between single quotes. -/
def singleQuoted (value : String) : String :=
  "'" ++ value ++ "'"

/-- The text between double quotes. -/
def doubleQuoted (value : String) : String :=
  "\"" ++ value ++ "\""

/-- A string expression whose value is `value`. -/
def literal (value : String) : String :=
  if apostrophe ∉ value.toList then singleQuoted value
  else if quotation ∉ value.toList then doubleQuoted value
  else
    "concat(" ++
      join ", \"'\", "
        ((cut apostrophe value.toList).map fun piece => singleQuoted (String.ofList piece)) ++
      ")"

/-- A character that a plain name can start with: an ASCII letter or the low line. -/
def isNameStart (character : Char) : Bool :=
  character.isAlpha || character == '_'

/-- A character that a plain name can go on with: an ASCII letter or digit, low line, dot or hyphen. -/
def isNameContinue (character : Char) : Bool :=
  character.isAlphanum || character == '_' || character == '.' || character == '-'

/-- True of names that can be written directly as an element or attribute test. -/
def isPlainName (name : String) : Bool :=
  match name.toList with
  | [] => false
  | first :: others => isNameStart first && others.all isNameContinue

end Locator.XPath
