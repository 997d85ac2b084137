import Locator.Browser.Basic
import Locator.Settings.Basic

/-!
# Waiting until an element stops moving

An observation is the first match of a path with its box. The element is stable once two observations
in a row found the same element in the same box; a round without a match breaks the row.
-/

namespace Locator

set_option autoImplicit false

/-- What one look at a page found: an element and its box. -/
structure Observation where
  element : Handle
  box : Rect
  deriving DecidableEq

namespace Browser

variable {State : Type}

/-- Looks once. That nothing matches is an answer; every other error is passed on. -/
def observe (browser : Browser State) (path : Path) : Action State (Option Observation) := do
  match ← (browser.find path).attempt with
  | .error error => if error.isNotFound then return none else throw error
  | .ok element =>
      let box ← browser.rect element
      return some { element, box }

/-- A number of looks as it is returned. It is counted in 32 bits, and the count is not checked. -/
def lookCount (looks : Nat) : Nat :=
  looks % 0x100000000

/-- Looks until the element is stable or the budget is used up, and returns the number of looks. What the clock says
is left open: `usedUp` tells whether the budget is used up at the end of a given look, counted from one; after
`left` further looks it is in any case. `previous` is what the look before found. -/
def watch (browser : Browser State) (path : Path) (usedUp : Nat → Bool) :
    (left look : Nat) → (previous : Option Observation) → Action State Nat
  | 0, look, _ => pure (lookCount look)
  | left + 1, look, previous => do
      let look := look + 1
      let current ← browser.observe path
      if current.isSome ∧ current = previous then return lookCount look
      if usedUp look then return lookCount look
      browser.watch path usedUp left look current

/-- The answers of a clock that runs during the pauses only, and for a millisecond where a pause has no length, so
that every budget is used up at some time. The program asks the system for the time, which may say anything. -/
def budgetUsedUp (budget interval look : Nat) : Bool :=
  budget ≤ (look - 1) * max 1 interval

/-- Waits until a path is stable or the budget is used up by a clock that runs during the pauses only, and returns
the number of looks. This is how a wait is run without a system clock; `watch` is the wait under any clock. -/
def untilStable (browser : Browser State) (path : Path) (budget : Nat)
    (settings : StabilitySettings) : Action State Nat :=
  browser.watch path (budgetUsedUp budget settings.pollInterval) (budget + 1) 0 none

end Browser

end Locator
