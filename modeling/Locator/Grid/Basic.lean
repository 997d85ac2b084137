import Locator.Grid.RowSpec
import Locator.Keyed
import Locator.Path.Html
import Locator.Path.Query
import Locator.Settings.Basic
import Locator.Text.Escaped

/-!
# Data grids

A grid renders only the rows and columns in view. Rows carry their index and cells the id of their column
as attributes; the id of a column is found at its header. A `Grid` holds what is expected of a grid on a
page and what has been learnt about it: the ids of its columns and the container that scrolls them.
-/

namespace Locator

open Locator.Html

set_option autoImplicit false

/-- The structural places of one grid. -/
structure GridRegions where
  /-- The containers of header cells: pinned left, pinned right, scrolling. -/
  headers : Path
  /-- The container of the rows. -/
  content : Path
  /-- The viewport that scrolls rows. -/
  viewport : Path
  /-- The viewport that scrolls columns, where there is one of its own. -/
  centerViewport : Path
  deriving DecidableEq

/-- The places of the grid inside of `container`. -/
def GridRegions.inside (container : Path) : GridRegions where
  headers :=
    (div.and
      (.hasAnyClass ["ag-pinned-right-header", "ag-pinned-left-header", "ag-header-viewport"])).inside
      container
  content := (div.and (.hasAnyClass ["ag-body-viewport", "ag-body"])).inside container
  viewport := (div.and (.hasClass "ag-body-viewport")).inside container
  centerViewport := (div.and (.hasClass "ag-center-cols-viewport")).inside container

/-- A grid as expected on a page, and what has been learnt about it. -/
structure Grid where
  /-- Column titles in the order they are shown. -/
  titles : List String
  rows : List RowSpec
  /-- Whether only the part in view is rendered. -/
  virtualized : Bool
  /-- Whether rows beyond the expected ones are refused. -/
  strict : Bool
  regions : GridRegions
  settings : GridSettings
  /-- Column ids by title, as far as they have been found. -/
  columnIds : Keyed String := .empty
  /-- The viewport that scrolls columns, once it has been found. -/
  columnViewport : Option Path := none
  deriving DecidableEq

/-- The parts a grid is described by. Titles and rows have to be given. -/
structure GridPlan where
  titles : Option (List String) := none
  rows : Option (List RowSpec) := none
  virtualized : Bool := true
  strict : Bool := false
  /-- Where on the page the grid is looked for. -/
  container : Path := html
  settings : GridSettings := {}

/-- The grid of a plan, about which nothing has been learnt. -/
def GridPlan.build (plan : GridPlan) : Except Error Grid :=
  match plan.titles with
  | none => .error ⟨.invalidArgument, "AgGrid requires headers"⟩
  | some titles =>
      match plan.rows with
      | none => .error ⟨.invalidArgument, "AgGrid requires rows"⟩
      | some rows =>
          .ok
            { titles
              rows
              virtualized := plan.virtualized
              strict := plan.strict
              regions := .inside plan.container
              settings := plan.settings }

theorem GridPlan.build_fresh {plan : GridPlan} {grid : Grid} (built : plan.build = .ok grid) :
    grid.settings = plan.settings ∧ grid.virtualized = plan.virtualized ∧ grid.columnIds = .empty ∧
      grid.columnViewport = none := by
  unfold build at built
  split at built
  · cases built
  · split at built
    · cases built
    · cases built
      exact ⟨rfl, rfl, rfl, rfl⟩

namespace Grid

/-- The attribute of headers and cells that holds the id of their column. -/
def columnIdAttribute : String := "col-id"

/-- The attribute of rows that holds their index. -/
def rowIndexAttribute : String := "row-index"

/-- The header cells. -/
def headerCell : Path :=
  div.and (.hasClass "ag-header-cell")

/-- The texts of header cells. -/
def headerText : Path :=
  span.and (.hasRef "eText")

/-- The rows. -/
def row : Path :=
  div.and (.hasRole "row")

/-- The cells. -/
def cell : Path :=
  div.and (.hasRole "gridcell")

/-- The cell belongs to the column with this id. -/
def hasColumnId (id : String) : Property :=
  .hasAttributeValue columnIdAttribute id

/-- The row has this index. -/
def hasRowIndex (index : Nat) : Property :=
  .hasAttributeValue rowIndexAttribute (toString index)

/-- The grid in words. -/
def describe (grid : Grid) : String :=
  "AgGrid\x7bheaders=" ++ Text.escapedList grid.titles ++ ", rows=" ++ toString grid.rows.length ++
    "\x7d"

/-- The header cell with this title. -/
def headerPath (grid : Grid) (title : String) : Path :=
  ((headerCell.inside grid.regions.headers).containing
      (headerText.and (.hasAggregatedText title))).describedBy
    ("header '" ++ title ++ "'")

/-- The row with this index. -/
def rowPath (grid : Grid) (index : Nat) : Path :=
  ((row.and (hasRowIndex index)).inside grid.regions.content).describedBy
    ("row with index " ++ toString index)

/-- The cell of a row that belongs to the column with this id. -/
def cellPath (row : Path) (columnId : String) : Path :=
  ((cell.inside row).describedBy ("cell in " ++ row.describe)).and (hasColumnId columnId)

/-- The id of the column with this title, which has to have been found. -/
def columnId? (grid : Grid) (title : String) : Except Error String :=
  match grid.columnIds.get? title with
  | none => .error ⟨.invalidArgument, "unknown column '" ++ title ++ "'"⟩
  | some id => .ok id

/-- A row with cells as expected, by the ids of their columns. -/
def withCells (grid : Grid) (row : Path) : List (String × Property) → Except Error Path
  | [] => .ok row
  | (title, expected) :: cells =>
      match grid.columnId? title with
      | .error error => .error error
      | .ok id =>
          grid.withCells (row.and (.contains (cell.that [hasColumnId id, expected]))) cells

/-- The row, at `index` if that is given, that has all cells as expected. -/
def expectedRowPath (grid : Grid) (index : Option Nat) (expected : RowSpec) : Except Error Path :=
  let start :=
    match index with
    | some index => grid.rowPath index
    | none => (row.inside grid.regions.content).describedBy "row"
  grid.withCells start expected.cells

end Grid

end Locator
