import Locator.Path.Build
import Locator.Path.Equality

/-!
# Expected rows

What is expected of the cells of one row: a property for each column title. Titles are kept in ascending
order, so cells are always looked at in the same order.
-/

namespace Locator

set_option autoImplicit false

/-- A property for each of some column titles. -/
structure RowSpec where
  cells : List (String × Property)
  deriving DecidableEq

namespace RowSpec

/-- Cells in ascending order of titles with one more title, whose earlier property is replaced. -/
def place (title : String) (property : Property) :
    List (String × Property) → List (String × Property)
  | [] => [(title, property)]
  | (other, old) :: cells =>
      if title < other then (title, property) :: (other, old) :: cells
      else if title = other then (title, property) :: cells
      else (other, old) :: place title property cells

/-- The row with these cells, the last one counting when a title is repeated. -/
def ofList (cells : List (String × Property)) : RowSpec :=
  ⟨cells.foldl (fun placed cell => place cell.1 cell.2 placed) []⟩

/-- The row whose cells have exactly these aggregated texts. -/
def ofTexts (cells : List (String × String)) : RowSpec :=
  ofList (cells.map fun cell => (cell.1, .hasAggregatedText cell.2))

end RowSpec

end Locator
