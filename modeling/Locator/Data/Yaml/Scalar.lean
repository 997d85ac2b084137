import Locator.Data.Value
import Locator.Text.Numeral

/-!
# Plain scalars

What an unquoted YAML scalar stands for: nothing, null, a boolean, a whole number, or its own text. A
number with a fraction is left as text, since nothing is read from one.
-/

namespace Locator.Data.Yaml

open Locator.Text

set_option autoImplicit false

/-- A leading sign, and the rest. -/
def splitSign : List Char → Option Bool × List Char
  | '-' :: rest => (some true, rest)
  | '+' :: rest => (some false, rest)
  | text => (none, text)

/-- The magnitude of a whole number without its sign. A decimal number of several digits does not start
with a zero; the other bases have a mark of their own. -/
def magnitude? : List Char → Option Nat
  | '0' :: 'x' :: digits => numeral? 16 digits
  | '0' :: 'o' :: digits => numeral? 8 digits
  | '0' :: 'b' :: digits => numeral? 2 digits
  | '0' :: _ :: _ => none
  | digits => numeral? 10 digits

/-- The whole number that a scalar spells; `none` when it is none or takes more than 128 bits. -/
def integer? (scalar : List Char) : Option Value :=
  let (sign, digits) := splitSign scalar
  match magnitude? digits with
  | none => none
  | some magnitude =>
      let negative := sign.getD false
      let limit :=
        if negative then 0x80000000000000000000000000000000
        else 0xFFFFFFFFFFFFFFFFFFFFFFFFFFFFFFFF
      if magnitude ≤ limit then
        some (.integer negative magnitude)
      else none

/-- The value of a plain scalar. -/
def resolve (scalar : String) : Value :=
  if scalar ∈ ["null", "Null", "NULL", "~"] then .null
  else if scalar ∈ ["true", "True", "TRUE"] then .bool true
  else if scalar ∈ ["false", "False", "FALSE"] then .bool false
  else if scalar.isEmpty then .empty
  else (integer? scalar.toList).getD (.text scalar)

end Locator.Data.Yaml
