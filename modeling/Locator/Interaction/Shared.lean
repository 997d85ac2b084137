import Locator.Browser.Basic

/-!
# One browser for everybody

A place where one browser can be put, for flows that cannot hand a browser on. Whoever uses the place
while it is empty gets an error.
-/

namespace Locator

set_option autoImplicit false

/-- The place: empty, or with a browser. -/
abbrev Shared (State : Type) :=
  Option (Browser State)

namespace Shared

variable {State : Type}

/-- The browser that was put here. -/
def get (shared : Shared State) : Except Error (Browser State) :=
  match shared with
  | none => .error ⟨.driver, "no browser installed; call singleton::install first"⟩
  | some browser => .ok browser

/-- Uses the browser that was put here. -/
def use {Value : Type} (shared : Shared State) (operation : Browser State → Action State Value) :
    Action State Value := do
  let browser ← ofExcept shared.get
  operation browser

end Shared

end Locator
