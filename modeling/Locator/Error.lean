/-!
# Causes of failure

Every operation that can fail does so for one of a few causes. The cause is what a caller reacts to:
a tolerant lookup may swallow `notFound` and nothing else. The detail is for the person reading it.
-/

namespace Locator

set_option autoImplicit false

/-- What went wrong, as far as a caller can react to it. -/
inductive Cause where
  /-- A combinator or builder was given an argument it cannot accept. -/
  | invalidArgument
  /-- Nothing matched, after waiting or after scrolling to the end. -/
  | notFound
  /-- An operation that retries ran out of attempts. -/
  | operationFailed
  /-- The page lacks what the operation relies on. -/
  | unsupported
  /-- A grid has no row with the index asked for. -/
  | indexOutOfBounds
  /-- A count assertion did not hold. -/
  | assertionFailed
  /-- The browser itself reported an error. -/
  | driver
  /-- A settings document could not be read. -/
  | settings
  /-- A file could not be read. -/
  | io
  /-- A JSON value does not have the shape asked for. -/
  | json
  /-- A search goes on beyond the steps that are followed here. The program has no such cause: it does not return. -/
  | endless
  deriving DecidableEq

/-- The words an error message opens with. -/
def Cause.label : Cause → String
  | .invalidArgument => "Invalid argument"
  | .notFound => "Element not found"
  | .operationFailed => "Operation failed"
  | .unsupported => "Unsupported operation"
  | .indexOutOfBounds => "Index out of bounds"
  | .assertionFailed => "Assertion failed"
  | .driver => "Driver error"
  | .settings => "Configuration error"
  | .io => "IO error"
  | .json => "JSON error"
  | .endless => "Search did not finish"

/-- A failure: its cause and what was being attempted. -/
structure Error where
  cause : Cause
  detail : String
  deriving DecidableEq

namespace Error

/-- The message shown to a person. -/
def message (error : Error) : String :=
  error.cause.label ++ ": " ++ error.detail

/-- True of the one cause that a tolerant lookup may swallow. -/
def isNotFound (error : Error) : Bool :=
  error.cause == .notFound

theorem isNotFound_iff (error : Error) : error.isNotFound = true ↔ error.cause = .notFound := by
  simp [isNotFound]

end Error

end Locator
