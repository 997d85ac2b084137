import Locator.Grid.Basic
import Locator.Grid.RowIndex
import Locator.Interaction.Scroll

/-!
# Finding one's way in a grid

Operations on a grid run on a pair: what is known of the grid, and the browser session. What has been
learnt before an error is kept. Every operation that scrolls lowers the implicit timeout, so that each
probe fails fast, and sets the final timeout when it ends, whichever way it ends.
-/

namespace Locator

open Locator.Html

set_option autoImplicit false

/-- An action on a grid and a browser session. -/
abbrev GridAction (State Value : Type) :=
  Action (Grid × State) Value

/-- The same browser with its session beside a grid. -/
def Browser.besideGrid {State : Type} (browser : Browser State) : Browser (Grid × State) :=
  browser.onPart Prod.snd fun state whole => (whole.1, state)

namespace Grid

variable {State : Type}

/-- What is known of the grid. -/
def known : GridAction State Grid :=
  Action.look Prod.fst

/-- Changes what is known of the grid. -/
def learn (change : Grid → Grid) : GridAction State Unit :=
  Action.update fun whole => (change whole.1, whole.2)

/-- Runs an operation under the timeouts of the grid. -/
def underTimeouts {Value : Type} (browser : Browser (Grid × State))
    (body : GridAction State Value) : GridAction State Value := do
  let timeouts := (← known).settings.timeouts
  browser.withTimeout timeouts.during timeouts.after body

/-- The container that scrolls columns. Newer grids have a viewport of its own for that; which one it is
is looked up once. -/
def columnContainer (browser : Browser (Grid × State)) : GridAction State Path := do
  let grid ← known
  match grid.columnViewport with
  | some path => return path
  | none =>
      let path :=
        if ← browser.isPresent grid.regions.centerViewport then grid.regions.centerViewport
        else grid.regions.viewport
      learn fun grid => { grid with columnViewport := some path }
      return path

/-- The scroller of rows. -/
def rowScroller (browser : Browser (Grid × State)) : GridAction State Scroller := do
  let grid ← known
  let scroller ← Scroller.ofTarget browser (.path grid.regions.viewport)
  return scroller.withSettings grid.settings.scroll

/-- The scroller of columns. -/
def columnScroller (browser : Browser (Grid × State)) : GridAction State Scroller := do
  let container ← columnContainer browser
  let scroller ← Scroller.ofTarget browser (.path container)
  return scroller.withSettings (← known).settings.scroll

/-- The header cell with this title: found by scrolling, or there already in a grid that does not
scroll. -/
def findHeader (browser : Browser (Grid × State)) (columns : Option Scroller) (header : Path) :
    GridAction State Handle :=
  match columns with
  | some scroller => scroller.untilPresent browser .right header
  | none => browser.find header

/-- Finds the column id of each title in turn and keeps it. -/
def discoverTitles (browser : Browser (Grid × State)) (columns : Option Scroller) :
    List String → GridAction State Unit
  | [] => pure ()
  | title :: titles => do
      let header := (← known).headerPath title
      let found ← findHeader browser columns header
      match ← browser.attribute? found columnIdAttribute with
      | none => throw ⟨.unsupported, "could not find column id for " ++ header.describe⟩
      | some id =>
          learn fun grid => { grid with columnIds := grid.columnIds.insert title id }
          match columns with
          | some scroller => scroller.toTopLeftCorner browser
          | none => pure ()
          discoverTitles browser columns titles

/-- Finds the column ids of all titles. -/
def discoverColumns (browser : Browser (Grid × State)) : GridAction State Unit := do
  let grid ← known
  let columns ← if grid.virtualized then some <$> columnScroller browser else pure none
  discoverTitles browser columns grid.titles

/-- Finds the column ids unless some are known. -/
def ensureColumns (browser : Browser (Grid × State)) : GridAction State Unit := do
  if (← known).columnIds.entries.isEmpty then discoverColumns browser

/-- The box of the grid's content. -/
def contentBox (browser : Browser (Grid × State)) : GridAction State Rect := do
  let content ← browser.find (← known).regions.content
  browser.rect content

/-- The element is displayed and its top is above `bottom`. -/
def rowVisible (browser : Browser (Grid × State)) (bottom : Int) (element : Handle) :
    GridAction State Bool := do
  if ← browser.isDisplayed element then
    return decide ((← browser.rect element).y < bottom)
  else return false

/-- The element is displayed and its left edge is left of `right`. -/
def columnVisible (browser : Browser (Grid × State)) (right : Int) (element : Handle) :
    GridAction State Bool := do
  if ← browser.isDisplayed element then
    return decide ((← browser.rect element).x < right)
  else return false

/-- Some match of `row` is visible as the page is scrolled now. That nothing matches is an answer. -/
def rowVisibleNow (browser : Browser (Grid × State)) (row : Path) (bottom : Int) :
    GridAction State Bool := do
  match ← (browser.findAll row).attempt with
  | .error error => if error.isNotFound then return false else throw error
  | .ok candidates =>
      let found ← Scroller.firstAccepted (rowVisible browser bottom) candidates
      return found.isSome

/-- Scrolls until the row with this index is visible, unless it is, and returns its path. -/
def revealRow (browser : Browser (Grid × State)) (index : Nat) : GridAction State Path := do
  let row := (← known).rowPath index
  let bottom := (← contentBox browser).bottom
  if ← rowVisibleNow browser row bottom then return row
  let rows ← rowScroller browser
  let columns ← columnScroller browser
  rows.toTopLeftCorner browser
  columns.toLeftEdge browser
  let _ ← rows.untilAccepted browser .down row (rowVisible browser bottom)
  return row

/-- Looks for the expected cells of a row in turn, each from the left edge on. -/
def findCells (browser : Browser (Grid × State)) (columns : Scroller) (row : Path) :
    List (String × Property) → GridAction State Unit
  | [] => pure ()
  | (title, expected) :: cells => do
      let id ← ofExcept ((← known).columnId? title)
      let _ ← columns.untilPresent browser .right ((cellPath row id).and expected)
      columns.toLeftEdge browser
      findCells browser columns row cells

/-- The error of a row that the grid does not have. -/
def rowMissing (index : Nat) (error : Error) : Error :=
  if error.isNotFound then
    ⟨.indexOutOfBounds, "row " ++ toString index ++ " was not found: " ++ error.detail⟩
  else error

/-- Scrolls to the row with this index, looks for all its expected cells, and scrolls until the row is
visible. That there is no such row is told apart from cells that differ. -/
def findRow (browser : Browser (Grid × State)) (index : Nat) (expected : RowSpec) :
    GridAction State Unit := do
  let rows ← rowScroller browser
  let columns ← columnScroller browser
  rows.toTopLeftCorner browser
  columns.toLeftEdge browser
  let row := (← known).rowPath index
  match ← (rows.untilPresent browser .down row).attempt with
  | .error error => throw (rowMissing index error)
  | .ok _ =>
      findCells browser columns row expected.cells
      let bottom := (← contentBox browser).bottom
      let _ ← rows.untilAccepted browser .down row (rowVisible browser bottom)

/-- Looks for each expected row at its index, from `index` on. -/
def findRows (browser : Browser (Grid × State)) : (index : Nat) → List RowSpec →
    GridAction State Unit
  | _, [] => pure ()
  | index, expected :: others => do
      let grid ← known
      if grid.virtualized then findRow browser index expected
      else
        let row ← ofExcept (grid.expectedRowPath (some index) expected)
        let _ ← browser.find row
      findRows browser (index + 1) others

/-- Fails when there is a row with this index. -/
def refuseRow (browser : Browser (Grid × State)) (index : Nat) : GridAction State Unit := do
  let grid ← known
  let row := grid.rowPath index
  let found ←
    if grid.virtualized then do
      let rows ← rowScroller browser
      (rows.untilPresent browser .down row).attempt
    else (browser.find row).attempt
  match found with
  | .error error => if error.isNotFound then return () else throw error
  | .ok _ =>
      throw
        ⟨.notFound,
          "grid with exactly " ++ toString index ++ " rows. Found too many rows."⟩

/-- Finds the columns and every expected row, and in strict mode makes sure that there is no row after
them. -/
def verify (browser : Browser (Grid × State)) : GridAction State Unit := do
  discoverColumns browser
  let grid ← known
  findRows browser 0 grid.rows
  if grid.strict then refuseRow browser grid.rows.length

/-- Looks for a row as expected at each index from `index` on, `count` of them. A row of which something
is not found is passed over, and every other error ends the search. -/
def searchRows (browser : Browser (Grid × State)) (expected : RowSpec) :
    (count index : Nat) → GridAction State (Option Nat)
  | 0, _ => pure none
  | count + 1, index => do
      match ← (findRow browser index expected).attempt with
      | .ok _ => return some index
      | .error error =>
          if error.isNotFound then searchRows browser expected count (index + 1)
          else throw error

/-- The index that the row's attribute gives. -/
def readRowIndex (browser : Browser (Grid × State)) (row : Handle) : GridAction State Nat := do
  match ← browser.attribute? row rowIndexAttribute with
  | none =>
      throw ⟨.unsupported, "row " ++ row.id ++ " has no " ++ rowIndexAttribute ++ " attribute"⟩
  | some value =>
      match rowIndex? value with
      | none =>
          throw
            ⟨.driver,
              "row " ++ row.id ++ " has a non-numeric " ++ rowIndexAttribute ++ ": " ++ value⟩
      | some index => return index

/-- Scrolls until a cell is visible, by the index of its row and the title of its column, and returns its
path. -/
def revealCell (browser : Browser (Grid × State)) (index : Nat) (title : String) :
    GridAction State Path := do
  ensureColumns browser
  let row ← revealRow browser index
  let id ← ofExcept ((← known).columnId? title)
  let cell := cellPath row id
  let columns ← columnScroller browser
  let right := (← contentBox browser).right
  columns.toLeftEdge browser
  let _ ← columns.untilAccepted browser .right cell (columnVisible browser right)
  return cell

/-- Scrolls until the header with this title is visible and returns its path. -/
def revealHeader (browser : Browser (Grid × State)) (title : String) : GridAction State Path := do
  let rows ← rowScroller browser
  let columns ← columnScroller browser
  rows.toTopLeftCorner browser
  columns.toLeftEdge browser
  let header := (← known).headerPath title
  let right := (← contentBox browser).right
  let _ ← rows.untilAccepted browser .right header (columnVisible browser right)
  return header

/-- The index of the first of `limit` rows with cells as expected. -/
def searchRow (browser : Browser (Grid × State)) (expected : RowSpec) (limit : Nat) :
    GridAction State Nat := do
  ensureColumns browser
  match ← searchRows browser expected limit 0 with
  | some index => return index
  | none => throw ⟨.notFound, "no row within the first " ++ toString limit ++ " matches"⟩

/-- The index of the first row with cells as expected, in a grid that does not scroll. -/
def lookUpRow (browser : Browser (Grid × State)) (expected : RowSpec) : GridAction State Nat := do
  ensureColumns browser
  let row ← ofExcept ((← known).expectedRowPath none expected)
  let found ← browser.find row
  readRowIndex browser found

end Grid

namespace Browser

variable {State : Type}

/-- Checks that a page has the grid as expected. -/
def findGrid (browser : Browser State) : GridAction State Unit := do
  let browser := browser.besideGrid
  let grid ← Grid.known
  let _ ← browser.find (Grid.headerCell.inside grid.regions.headers)
  if grid.virtualized then Grid.underTimeouts browser (Grid.verify browser)
  else Grid.verify browser

/-- Finds the column ids of all titles. -/
def findColumnIds (browser : Browser State) : GridAction State (Keyed String) := do
  let browser := browser.besideGrid
  Grid.underTimeouts browser (Grid.discoverColumns browser)
  return (← Grid.known).columnIds

/-- Scrolls until the row with this index is visible and returns its path. -/
def revealRow (browser : Browser State) (index : Nat) : GridAction State Path :=
  let browser := browser.besideGrid
  Grid.underTimeouts browser (Grid.revealRow browser index)

/-- Scrolls until a cell is visible, by the index of its row and the title of its column, and returns its
path. -/
def revealCell (browser : Browser State) (index : Nat) (title : String) : GridAction State Path :=
  let browser := browser.besideGrid
  Grid.underTimeouts browser (Grid.revealCell browser index title)

/-- Scrolls until the header with this title is visible and returns its path. -/
def revealHeader (browser : Browser State) (title : String) : GridAction State Path :=
  let browser := browser.besideGrid
  Grid.underTimeouts browser (Grid.revealHeader browser title)

/-- The index of the first row with cells as expected. -/
def findRowIndex (browser : Browser State) (expected : RowSpec) : GridAction State Nat := do
  let browser := browser.besideGrid
  let grid ← Grid.known
  if grid.virtualized then
    Grid.underTimeouts browser (Grid.searchRow browser expected grid.settings.rowSearchLimit)
  else Grid.lookUpRow browser expected

/-- Opens the menu of the column with this title. -/
def openHeaderMenu (browser : Browser State) (title : String) : GridAction State Unit := do
  let header ← browser.revealHeader title
  let _ ← browser.besideGrid.clickOn (.path ((span.and (.hasRef "eMenu")).inside header))

/-- Sorts by the column with this title, by a click on its label. -/
def sortByHeader (browser : Browser State) (title : String) : GridAction State Unit := do
  let header ← browser.revealHeader title
  let _ ← browser.besideGrid.clickOn (.path ((div.and (.hasRef "eLabel")).inside header))

end Browser

end Locator
