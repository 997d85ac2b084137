/-!
# Settings of the interaction loops

Each record has defaults that suit interaction out of the box. All times are in milliseconds, all
lengths in pixels.
-/

namespace Locator

set_option autoImplicit false

/-- How a search scrolls. -/
structure ScrollSettings where
  /-- Pixels per step. -/
  step : Int := 150
  /-- Steps in a row without advance before the search gives up. -/
  maxStalls : Nat := 2
  deriving DecidableEq

/-- How an input is cleared. -/
structure ClearSettings where
  /-- Attempts of the key-by-key loop when the input has to end up empty. -/
  strictTries : Nat := 20
  /-- Attempts of the key-by-key loop otherwise. -/
  lenientTries : Nat := 3
  /-- How many keys of each kind the quick clear sends. -/
  quickLength : Nat := 100
  deriving DecidableEq

/-- How an option of a dropdown is picked. -/
structure DropdownSettings where
  /-- Pixels per scroll step. -/
  step : Int := 50
  /-- The implicit timeout while scrolling. -/
  lookupTimeout : Nat := 10
  /-- The pause between finding the option and clicking it. -/
  settleDelay : Nat := 100
  deriving DecidableEq

/-- The implicit timeouts around grid operations. -/
structure GridTimeouts where
  /-- While scrolling, so that each probe fails fast. -/
  during : Nat := 5
  /-- Once the operation is over. -/
  after : Nat := 5000
  deriving DecidableEq

/-- How a grid is searched. -/
structure GridSettings where
  timeouts : GridTimeouts := {}
  /-- How many row indices a search for content tries. -/
  rowSearchLimit : Nat := 10000000
  /-- How the grid's viewports are scrolled. -/
  scroll : ScrollSettings := {}
  deriving DecidableEq

/-- How an element is watched until it stops moving. -/
structure StabilitySettings where
  /-- The pause between two observations. -/
  pollInterval : Nat := 50
  deriving DecidableEq

/-- All settings. Grids are scrolled by the settings in `grid`, never by those in `scroll`. -/
structure Settings where
  scroll : ScrollSettings := {}
  clear : ClearSettings := {}
  dropdown : DropdownSettings := {}
  grid : GridSettings := {}
  stability : StabilitySettings := {}
  deriving DecidableEq

end Locator
