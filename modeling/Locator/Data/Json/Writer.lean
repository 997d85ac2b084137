import Locator.Data.Value
import Locator.Text.Pieces

/-!
# Writing JSON

The text has no white space. Characters are written as they are, but for quotes, backslashes and control
characters, which are escaped.
-/

namespace Locator.Data.Json

open Locator.Text

set_option autoImplicit false

/-- The lower-case hexadecimal digit of a number below sixteen. -/
def hexDigit (value : Nat) : Char :=
  Nat.digitChar value

/-- A character as it stands inside a JSON text. -/
def escape (character : Char) : List Char :=
  if character = '"' then ['\\', '"']
  else if character = '\\' then ['\\', '\\']
  else if character = '\n' then ['\\', 'n']
  else if character = '\r' then ['\\', 'r']
  else if character = '\t' then ['\\', 't']
  else if character = '\x08' then ['\\', 'b']
  else if character = '\x0c' then ['\\', 'f']
  else if character.toNat < 0x20 then
    ['\\', 'u', '0', '0', hexDigit (character.toNat / 16), hexDigit (character.toNat % 16)]
  else [character]

/-- A text with its quotes. -/
def quote (content : String) : String :=
  "\"" ++ String.ofList (content.toList.flatMap escape) ++ "\""

/-- A text that is no Unicode text: an escaped surrogate on its own. -/
def garbledText : String := "\"\\ud800\""

/-- The text of a value where it is a key. JSON has text keys only, so any other key is written as a text
that spells it. -/
def asKey (key : Value) (text : String) : String :=
  match key with
  | .text _ | .garbled => text
  | _ => quote text

/-- The sign of a number. -/
def sign (negative : Bool) : String :=
  if negative then "-" else ""

mutual

/-- The value as JSON text. -/
def write : Value → String
  | .empty | .null => "null"
  | .bool true => "true"
  | .bool false => "false"
  | .integer negative magnitude => sign negative ++ toString magnitude
  | .decimal negative digits exponent => sign negative ++ toString digits ++ "e" ++ toString exponent
  | .text content => quote content
  | .garbled => garbledText
  | .list items => "[" ++ join "," (writeItems items) ++ "]"
  | .record members => "\x7b" ++ join "," (writeMembers members) ++ "\x7d"

/-- Each item as JSON text. -/
def writeItems : List Value → List String
  | [] => []
  | first :: others => write first :: writeItems others

/-- Each member as JSON text. -/
def writeMembers : List (Value × Value) → List String
  | [] => []
  | (key, value) :: others => (asKey key (write key) ++ ":" ++ write value) :: writeMembers others

end

end Locator.Data.Json
