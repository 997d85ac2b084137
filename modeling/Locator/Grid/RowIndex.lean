import Locator.Data.Value
import Locator.Text.Blank
import Locator.Text.Numeral

/-!
# Row indices

The index of a row as it is read from the row's attribute.
-/

namespace Locator

open Locator.Text

set_option autoImplicit false

/-- The index that an attribute value spells: decimal digits that make up a number of 64 bits, with at most
a plus sign in front and blanks around. -/
def rowIndex? (value : String) : Option Nat :=
  let digits :=
    match trimmed value.toList with
    | '+' :: digits => digits
    | digits => digits
  (numeral? 10 digits).filter (· ≤ Data.maxUnsigned64)

end Locator
