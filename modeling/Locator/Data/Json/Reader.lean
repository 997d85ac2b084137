import Locator.Data.Value
import Locator.Text.Numeral

/-!
# Reading JSON

A reader takes characters off the front of its input and returns what it read with the rest. Only
syntax is checked here: text whose escapes are not Unicode, and numbers no machine can hold, are read
as such and left for whoever asks for the value.

Every step of the readers that call each other takes at least one character for two units of fuel, so
twice the length of the input is fuel enough.
-/

namespace Locator.Data.Json

open Locator.Text

set_option autoImplicit false

/-- White space between tokens. -/
def isSpace (character : Char) : Bool :=
  character == ' ' || character == '\n' || character == '\t' || character == '\r'

/-- The input without leading white space. -/
def skip (input : List Char) : List Char :=
  input.dropWhile isSpace

/-- A part of a text: a character, or a UTF-16 code unit given by an escape. -/
inductive Piece where
  | char (character : Char)
  | unit (code : Nat)
  deriving DecidableEq

/-- The character that a one-letter escape stands for. -/
def escaped? : Char → Option Char
  | '"' => some '"'
  | '\\' => some '\\'
  | '/' => some '/'
  | 'b' => some '\x08'
  | 'f' => some '\x0c'
  | 'n' => some '\n'
  | 'r' => some '\r'
  | 't' => some '\t'
  | _ => none

/-- The parts of a text up to its closing quote. Control characters have to be escaped. -/
def readPieces : List Char → Option (List Piece × List Char)
  | [] => none
  | '"' :: rest => some ([], rest)
  | '\\' :: 'u' :: first :: second :: third :: fourth :: rest => do
      let code ← numeral? 16 [first, second, third, fourth]
      let (pieces, rest) ← readPieces rest
      return (.unit code :: pieces, rest)
  | '\\' :: letter :: rest => do
      let character ← escaped? letter
      let (pieces, rest) ← readPieces rest
      return (.char character :: pieces, rest)
  | character :: rest => do
      if character.toNat < 0x20 then none
      else
        let (pieces, rest) ← readPieces rest
        return (.char character :: pieces, rest)

/-- True of the code units that open a surrogate pair. -/
def isHighSurrogate (code : Nat) : Bool :=
  0xD800 ≤ code && code < 0xDC00

/-- True of the code units that close a surrogate pair. -/
def isLowSurrogate (code : Nat) : Bool :=
  0xDC00 ≤ code && code < 0xE000

/-- The characters that the parts make up; `none` when a surrogate stands alone. -/
def assemble : List Piece → Option (List Char)
  | [] => some []
  | .char character :: others => (assemble others).map (character :: ·)
  | .unit high :: .unit low :: others =>
      if isHighSurrogate high && isLowSurrogate low then
        (assemble others).map
          (Char.ofNat (0x10000 + (high - 0xD800) * 0x400 + (low - 0xDC00)) :: ·)
      else if isHighSurrogate high || isLowSurrogate high then none
      else (assemble (.unit low :: others)).map (Char.ofNat high :: ·)
  | .unit code :: others =>
      if isHighSurrogate code || isLowSurrogate code then none
      else (assemble others).map (Char.ofNat code :: ·)

/-- A text after its opening quote. -/
def readText (input : List Char) : Option (Value × List Char) := do
  let (pieces, rest) ← readPieces input
  match assemble pieces with
  | some content => return (.text (String.ofList content), rest)
  | none => return (.garbled, rest)

/-- The digits at the front of the input, and the rest. -/
def readDigits (input : List Char) : List Char × List Char :=
  input.span Char.isDigit

/-- The digits after a decimal point, if there is one; a point needs a digit. -/
def readFraction : List Char → Option (Option (List Char) × List Char)
  | '.' :: rest =>
      match readDigits rest with
      | ([], _) => none
      | (digits, rest) => some (some digits, rest)
  | input => some (none, input)

/-- A sign and the rest. -/
def readSign : List Char → Bool × List Char
  | '-' :: rest => (true, rest)
  | '+' :: rest => (false, rest)
  | input => (false, input)

/-- The exponent, if there is one; an exponent mark needs a digit. -/
def readExponent : List Char → Option (Option Int × List Char)
  | mark :: rest =>
      if mark == 'e' || mark == 'E' then
        let (negative, rest) := readSign rest
        match readDigits rest with
        | ([], _) => none
        | (digits, rest) => do
            let magnitude ← numeral? 10 digits
            return (some (if negative then -(magnitude : Int) else magnitude), rest)
      else some (none, mark :: rest)
  | [] => some (none, [])

/-- A number with one more decimal digit, while it fits 64 bits. -/
def append? (number : Nat) (digit : Char) : Option Nat :=
  match digit? 10 digit with
  | none => none
  | some value =>
      let longer := number * 10 + value
      if longer ≤ maxUnsigned64 then some longer else none

/-- The number that the leading digits of a whole part make up, as far as it fits 64 bits, and how many
digits are left over. -/
def significant (number : Nat) : List Char → Nat × Nat
  | [] => (number, 0)
  | digit :: digits =>
      match append? number digit with
      | none => (number, digits.length + 1)
      | some longer => significant longer digits

/-- The number that the digits of a fraction continue, as far as it fits 64 bits, and how many digits
were taken. -/
def continued (number : Nat) : List Char → Nat × Nat
  | [] => (number, 0)
  | digit :: digits =>
      match append? number digit with
      | none => (number, 0)
      | some longer =>
          let (result, taken) := continued longer digits
          (result, taken + 1)

/-- The value of a number by its parts. A number is whole when it has neither fraction nor exponent, fits
a 64-bit integer of its sign, and is not a negative zero. -/
def number (negative : Bool) (whole : List Char) (fraction : Option (List Char))
    (exponent : Option Int) : Value :=
  let (leading, left) := significant 0 whole
  match fraction, exponent, left with
  | none, none, 0 =>
      if !negative then .integer false leading
      else if 0 < leading ∧ leading ≤ minSigned64.natAbs then .integer true leading
      else .decimal true leading 0
  | _, _, _ =>
      let (digits, taken) := continued leading (fraction.getD [])
      .decimal negative digits (exponent.getD 0 + left - taken)

/-- A number. A whole part of several digits does not start with a zero. -/
def readNumber (input : List Char) : Option (Value × List Char) := do
  let (negative, rest) := match input with
    | '-' :: rest => (true, rest)
    | _ => (false, input)
  let (digits, rest) := readDigits rest
  if digits.isEmpty || (digits.head? == some '0' && digits.length != 1) then none
  else
    let (fraction, rest) ← readFraction rest
    let (exponent, rest) ← readExponent rest
    return (number negative digits fraction exponent, rest)

mutual

/-- A value. -/
def readValue : Nat → List Char → Option (Value × List Char)
  | 0, _ => none
  | fuel + 1, input =>
      match skip input with
      | 'n' :: 'u' :: 'l' :: 'l' :: rest => some (.null, rest)
      | 't' :: 'r' :: 'u' :: 'e' :: rest => some (.bool true, rest)
      | 'f' :: 'a' :: 'l' :: 's' :: 'e' :: rest => some (.bool false, rest)
      | '"' :: rest => readText rest
      | '[' :: rest =>
          match skip rest with
          | ']' :: rest => some (.list [], rest)
          | rest => do
              let (items, rest) ← readItems fuel rest
              return (.list items, rest)
      | '\x7b' :: rest =>
          match skip rest with
          | '\x7d' :: rest => some (.record [], rest)
          | rest => do
              let (members, rest) ← readMembers fuel rest
              return (.record members, rest)
      | rest => readNumber rest

/-- One or more items up to the closing bracket. -/
def readItems : Nat → List Char → Option (List Value × List Char)
  | 0, _ => none
  | fuel + 1, input => do
      let (item, rest) ← readValue fuel input
      match skip rest with
      | ',' :: rest => do
          let (items, rest) ← readItems fuel rest
          return (item :: items, rest)
      | ']' :: rest => return ([item], rest)
      | _ => none

/-- One or more members up to the closing brace. -/
def readMembers : Nat → List Char → Option (List (Value × Value) × List Char)
  | 0, _ => none
  | fuel + 1, input =>
      match skip input with
      | '"' :: rest => do
          let (key, rest) ← readText rest
          match skip rest with
          | ':' :: rest => do
              let (value, rest) ← readValue fuel rest
              match skip rest with
              | ',' :: rest => do
                  let (members, rest) ← readMembers fuel rest
                  return ((key, value) :: members, rest)
              | '\x7d' :: rest => return ([(key, value)], rest)
              | _ => none
          | _ => none
      | _ => none

end

/-- The value of a whole JSON text. -/
def parse (text : String) : Option Value := do
  let input := text.toList
  let (value, rest) ← readValue (2 * input.length + 2) input
  if (skip rest).isEmpty then return value else none

end Locator.Data.Json
