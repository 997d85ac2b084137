/-!
# Numerals

Whole numbers read from their digits in a base up to sixteen, without sign, blanks or separators.
-/

namespace Locator.Text

set_option autoImplicit false

/-- The value of a digit, of either letter case, below `base`. -/
def digit? (base : Nat) (character : Char) : Option Nat :=
  let code := character.toNat
  let value :=
    if 0x30 ≤ code ∧ code ≤ 0x39 then some (code - 0x30)
    else if 0x61 ≤ code ∧ code ≤ 0x66 then some (code - 0x61 + 10)
    else if 0x41 ≤ code ∧ code ≤ 0x46 then some (code - 0x41 + 10)
    else none
  value.filter (· < base)

/-- The number whose digits are those of `sofar` followed by the given ones. -/
def numeralFrom (base : Nat) (sofar : Nat) : List Char → Option Nat
  | [] => some sofar
  | first :: others =>
      match digit? base first with
      | none => none
      | some value => numeralFrom base (sofar * base + value) others

/-- The number with the given digits; `none` when there is no digit or something else among them. -/
def numeral? (base : Nat) (digits : List Char) : Option Nat :=
  if digits.isEmpty then none else numeralFrom base 0 digits

end Locator.Text
