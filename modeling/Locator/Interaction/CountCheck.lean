import Locator.Browser.Basic
import Locator.Data.Value

/-!
# Checking how many nodes a path matches

A check that passes looks for one or two single matches by their position. Only a check that is about to
fail counts all matches, to report their number.
-/

namespace Locator

set_option autoImplicit false

/-- An expected number of matches. -/
structure CountCheck where
  comparison : Comparison
  count : Nat
  deriving DecidableEq

namespace CountCheck

/-- The check for a number of matches from one on; that there is no match is checked otherwise. -/
def of? (comparison : Comparison) (count : Nat) : Except Error CountCheck :=
  if count = 0 then
    .error ⟨.invalidArgument, "use an absence check to assert an element is not present"⟩
  else .ok { comparison, count }

/-- The words for the check. -/
def describe (check : CountCheck) : String :=
  let words := toString check.count ++ " occurrences"
  match check.comparison with
  | .exactly => words
  | comparison => comparison.phrase ++ " " ++ words

variable {State : Type}

/-- Whether there is a match with the given number. -/
def nthPresent (browser : Browser State) (path : Path) (index : Nat) : Action State Bool := do
  let nth ← ofExcept (path.nth? index)
  browser.isPresent nth

/-- Whether there is no match after the first `count`. Nothing follows the last number there is. -/
def nextAbsent (browser : Browser State) (path : Path) (count : Nat) : Action State Bool := do
  if count < Data.maxUnsigned64 then
    let present ← nthPresent browser path (count + 1)
    return !present
  else return true

/-- Whether the check passes going by single matches. -/
def passesByPosition (browser : Browser State) (check : CountCheck) (path : Path) :
    Action State Bool := do
  match check.comparison with
  | .atLeast => nthPresent browser path check.count
  | .atMost => nextAbsent browser path check.count
  | .exactly =>
      if ← nthPresent browser path check.count then nextAbsent browser path check.count
      else return false

/-- Checks a path. -/
def run (browser : Browser State) (check : CountCheck) (path : Path) : Action State Unit := do
  if ← check.passesByPosition browser path then return ()
  let actual ← browser.count path
  if check.comparison.holds actual check.count then return ()
  throw
    ⟨.assertionFailed,
      "expected " ++ check.describe ++ " of " ++ path.describe ++ ", but found " ++ toString actual⟩

end CountCheck

end Locator
