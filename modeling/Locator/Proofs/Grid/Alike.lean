import Locator.Grid.Navigation
import Locator.Proofs.Browser.Alike

/-!
# Grids in alike browsers

What is looked for in a grid below its timeouts goes alike in alike browsers, and what is learnt about the
grid on the way is the same.
-/

namespace Locator

set_option autoImplicit false

variable {State State' : Type}

namespace Grid

/-- The grids are the same and the sessions match. -/
def Beside (matching : State → State' → Prop) (whole : Grid × State) (whole' : Grid × State') : Prop :=
  whole.1 = whole'.1 ∧ matching whole.2 whole'.2

variable {matching : State → State' → Prop}

theorem known_alike : Action.Alike (Beside matching) known known := by
  intro whole whole' same
  rw [known, known, Action.outcome_look, Action.outcome_look, same.1]
  exact ⟨rfl, same⟩

theorem learn_alike (change : Grid → Grid) : Action.Alike (Beside matching) (learn change) (learn change) := by
  intro whole whole' same
  rw [learn, learn, Action.outcome_update, Action.outcome_update, same.1]
  exact ⟨rfl, rfl, same.2⟩

end Grid

open Grid

theorem Browser.Alike.besideGrid {matching : State → State' → Prop} {browser : Browser State}
    {other : Browser State'} (alike : browser.Alike matching other) :
    browser.besideGrid.Alike (Beside matching) other.besideGrid := by
  have part {Value : Type} {left : Action State Value} {right : Action State' Value}
      (same : Action.Alike matching left right) :
      Action.Alike (Beside matching)
        (left.onPart Prod.snd fun state (whole : Grid × State) => (whole.1, state))
        (right.onPart Prod.snd fun state (whole : Grid × State') => (whole.1, state)) := by
    intro whole whole' beside
    obtain ⟨ending, after⟩ := same whole.2 whole'.2 beside.2
    rw [Action.outcome_onPart, Action.outcome_onPart]
    exact ⟨ending, beside.1, after⟩
  constructor
  case find => exact fun path => part (alike.find path)
  case findAll => exact fun path => part (alike.findAll path)
  case click => exact fun handle => part (alike.click handle)
  case sendKeys => exact fun handle keys => part (alike.sendKeys handle keys)
  case clear => exact fun handle => part (alike.clear handle)
  case attribute? => exact fun handle name => part (alike.attribute? handle name)
  case rect => exact fun handle => part (alike.rect handle)
  case isDisplayed => exact fun handle => part (alike.isDisplayed handle)
  case scrollBy => exact fun handle dx dy => part (alike.scrollBy handle dx dy)
  case scrollTo => exact fun handle x y => part (alike.scrollTo handle x y)
  case scrollOffset => exact fun handle => part (alike.scrollOffset handle)

namespace Grid

/-- What is left of `findRow` once both containers are at their starts. -/
def findRowFromStart (browser : Browser (Grid × State)) (rows columns : Scroller) (index : Nat)
    (expected : RowSpec) : GridAction State Unit := do
  let row := (← known).rowPath index
  match ← (rows.untilPresent browser .down row).attempt with
  | .error error => throw (rowMissing index error)
  | .ok _ =>
      findCells browser columns row expected.cells
      let bottom := (← contentBox browser).bottom
      let _ ← rows.untilAccepted browser .down row (rowVisible browser bottom)

theorem findRow_eq (browser : Browser (Grid × State)) (index : Nat) (expected : RowSpec) :
    findRow browser index expected =
      rowScroller browser >>= fun rows => columnScroller browser >>= fun columns =>
        rows.toTopLeftCorner browser >>= fun _ => columns.toLeftEdge browser >>= fun _ =>
          findRowFromStart browser rows columns index expected :=
  rfl

variable {matching : State → State' → Prop} {browser : Browser (Grid × State)}
  {other : Browser (Grid × State')} (alike : browser.Alike (Beside matching) other)

include alike

/-! ## Scrollers -/

theorem columnContainer_alike :
    Action.Alike (Beside matching) (columnContainer browser) (columnContainer other) := by
  apply known_alike.bind
  intro grid
  cases viewport : grid.columnViewport with
  | some path => exact .pure path
  | none =>
      apply (alike.isPresent _).bind
      intro present
      exact (learn_alike _).bind fun _ => .pure _

theorem rowScroller_alike : Action.Alike (Beside matching) (rowScroller browser) (rowScroller other) := by
  apply known_alike.bind
  intro grid
  exact (Scroller.ofTarget_alike alike _).bind fun scroller => .pure _

theorem columnScroller_alike :
    Action.Alike (Beside matching) (columnScroller browser) (columnScroller other) := by
  apply (columnContainer_alike alike).bind
  intro container
  apply (Scroller.ofTarget_alike alike _).bind
  intro scroller
  exact known_alike.bind fun grid => .pure _

/-! ## Columns -/

theorem findHeader_alike (columns : Option Scroller) (header : Path) :
    Action.Alike (Beside matching) (findHeader browser columns header)
      (findHeader other columns header) := by
  cases columns with
  | some scroller => exact Scroller.untilPresent_alike alike scroller .right header
  | none => exact alike.find header

theorem discoverTitles_alike (columns : Option Scroller) (titles : List String) :
    Action.Alike (Beside matching) (discoverTitles browser columns titles)
      (discoverTitles other columns titles) := by
  induction titles with
  | nil => exact .pure ()
  | cons title titles ih =>
      apply known_alike.bind
      intro grid
      apply (findHeader_alike alike columns _).bind
      intro found
      apply (alike.attribute? found columnIdAttribute).bind
      intro id
      cases id with
      | none => exact .throw _
      | some id =>
          apply (learn_alike _).bind
          intro _
          cases columns with
          | some scroller => exact (alike.scrollTo scroller.container _ _).bind fun _ => ih
          | none => exact ih

theorem discoverColumns_alike :
    Action.Alike (Beside matching) (discoverColumns browser) (discoverColumns other) := by
  apply known_alike.bind
  intro grid
  cases grid.virtualized with
  | true =>
      simp only [if_true]
      exact ((columnScroller_alike alike).map some).bind
        fun columns => discoverTitles_alike alike columns grid.titles
  | false =>
      simp only [Bool.false_eq_true, if_false]
      exact (Action.Alike.pure none).bind
        fun columns => discoverTitles_alike alike columns grid.titles

theorem ensureColumns_alike :
    Action.Alike (Beside matching) (ensureColumns browser) (ensureColumns other) := by
  apply known_alike.bind
  intro grid
  by_cases empty : grid.columnIds.entries.isEmpty = true
  · simp only [empty, if_true]
    exact discoverColumns_alike alike
  · simp only [empty, Bool.false_eq_true, if_false]
    exact .pure ()

/-! ## Rows and cells -/

theorem contentBox_alike : Action.Alike (Beside matching) (contentBox browser) (contentBox other) := by
  apply known_alike.bind
  intro grid
  exact (alike.find _).bind fun content => alike.rect content

theorem rowVisible_alike (bottom : Int) (element : Handle) :
    Action.Alike (Beside matching) (rowVisible browser bottom element) (rowVisible other bottom element) := by
  apply (alike.isDisplayed element).bind
  intro displayed
  cases displayed with
  | true => exact (alike.rect element).bind fun box => .pure _
  | false => exact .pure false

theorem columnVisible_alike (right : Int) (element : Handle) :
    Action.Alike (Beside matching) (columnVisible browser right element)
      (columnVisible other right element) := by
  apply (alike.isDisplayed element).bind
  intro displayed
  cases displayed with
  | true => exact (alike.rect element).bind fun box => .pure _
  | false => exact .pure false

theorem rowVisibleNow_alike (row : Path) (bottom : Int) :
    Action.Alike (Beside matching) (rowVisibleNow browser row bottom) (rowVisibleNow other row bottom) := by
  apply (alike.findAll row).attempt.bind
  intro found
  cases found with
  | error error => exact .unlessMissing (.pure false) error
  | ok candidates =>
      exact (Scroller.firstAccepted_alike (rowVisible_alike alike bottom) candidates).bind
        fun found => .pure found.isSome

theorem revealRow_alike (index : Nat) :
    Action.Alike (Beside matching) (revealRow browser index) (revealRow other index) := by
  apply known_alike.bind
  intro grid
  apply (contentBox_alike alike).bind
  intro box
  apply (rowVisibleNow_alike alike _ _).bind
  intro visible
  cases visible with
  | true => exact .pure _
  | false =>
      apply (rowScroller_alike alike).bind
      intro rows
      apply (columnScroller_alike alike).bind
      intro columns
      apply (alike.scrollTo rows.container _ _).bind
      intro _
      apply (alike.scrollTo columns.container _ _).bind
      intro _
      exact (Scroller.untilAccepted_alike alike (rowVisible_alike alike _) rows .down _).bind
        fun _ => .pure _

theorem findCells_alike (columns : Scroller) (row : Path) (cells : List (String × Property)) :
    Action.Alike (Beside matching) (findCells browser columns row cells)
      (findCells other columns row cells) := by
  induction cells with
  | nil => exact .pure ()
  | cons cell cells ih =>
      apply known_alike.bind
      intro grid
      apply (Action.Alike.ofExcept _).bind
      intro id
      apply (Scroller.untilPresent_alike alike columns .right _).bind
      intro _
      exact (alike.scrollTo columns.container _ _).bind fun _ => ih

theorem findRowFromStart_alike (rows columns : Scroller) (index : Nat) (expected : RowSpec) :
    Action.Alike (Beside matching) (findRowFromStart browser rows columns index expected)
      (findRowFromStart other rows columns index expected) := by
  apply known_alike.bind
  intro grid
  apply (Scroller.untilPresent_alike alike rows .down _).attempt.bind
  intro found
  cases found with
  | error error => exact .throw _
  | ok _ =>
      apply (findCells_alike alike columns _ expected.cells).bind
      intro _
      apply (contentBox_alike alike).bind
      intro box
      exact (Scroller.untilAccepted_alike alike (rowVisible_alike alike _) rows .down _).bind
        fun _ => .pure ()

theorem findRow_alike (index : Nat) (expected : RowSpec) :
    Action.Alike (Beside matching) (findRow browser index expected) (findRow other index expected) := by
  rw [findRow_eq, findRow_eq]
  apply (rowScroller_alike alike).bind
  intro rows
  apply (columnScroller_alike alike).bind
  intro columns
  apply (alike.scrollTo rows.container _ _).bind
  intro _
  apply (alike.scrollTo columns.container _ _).bind
  intro _
  exact findRowFromStart_alike alike rows columns index expected

theorem findRows_alike (index : Nat) (rows : List RowSpec) :
    Action.Alike (Beside matching) (findRows browser index rows) (findRows other index rows) := by
  induction rows generalizing index with
  | nil => exact .pure ()
  | cons expected others ih =>
      apply known_alike.bind
      intro grid
      by_cases virtualized : grid.virtualized = true
      · simp only [virtualized, if_true]
        exact (findRow_alike alike index expected).bind fun _ => ih (index + 1)
      · simp only [virtualized, Bool.false_eq_true, if_false]
        apply (Action.Alike.ofExcept _).bind
        intro row
        exact (alike.find row).bind fun _ => ih (index + 1)

theorem refuseRow_alike (index : Nat) :
    Action.Alike (Beside matching) (refuseRow browser index) (refuseRow other index) := by
  apply known_alike.bind
  intro grid
  by_cases virtualized : grid.virtualized = true
  · simp only [virtualized, if_true]
    apply (rowScroller_alike alike).bind
    intro rows
    apply (Scroller.untilPresent_alike alike rows .down _).attempt.bind
    intro found
    cases found with
    | ok _ => exact .throw _
    | error error => exact .unlessMissing (.pure ()) error
  · simp only [virtualized, Bool.false_eq_true, if_false]
    apply (alike.find _).attempt.bind
    intro found
    cases found with
    | ok _ => exact .throw _
    | error error => exact .unlessMissing (.pure ()) error

theorem verify_alike : Action.Alike (Beside matching) (verify browser) (verify other) := by
  apply (discoverColumns_alike alike).bind
  intro _
  apply known_alike.bind
  intro grid
  apply (findRows_alike alike 0 grid.rows).bind
  intro _
  by_cases strict : grid.strict = true
  · simp only [strict, if_true]
    exact refuseRow_alike alike grid.rows.length
  · simp only [strict, Bool.false_eq_true, if_false]
    exact .pure ()

theorem searchRows_alike (expected : RowSpec) (count index : Nat) :
    Action.Alike (Beside matching) (searchRows browser expected count index)
      (searchRows other expected count index) := by
  induction count generalizing index with
  | zero => exact .pure none
  | succ count ih =>
      apply (findRow_alike alike index expected).attempt.bind
      intro found
      cases found with
      | ok _ => exact .pure (some index)
      | error error => exact .unlessMissing (ih (index + 1)) error

theorem readRowIndex_alike (row : Handle) :
    Action.Alike (Beside matching) (readRowIndex browser row) (readRowIndex other row) := by
  apply (alike.attribute? row rowIndexAttribute).bind
  intro value
  cases value with
  | none => exact .throw _
  | some value =>
      cases parsed : rowIndex? value with
      | none => simpa only [parsed] using Action.Alike.throw _
      | some index => simpa only [parsed] using Action.Alike.pure index

/-! ## Operations below their timeouts -/

theorem revealCell_alike (index : Nat) (title : String) :
    Action.Alike (Beside matching) (revealCell browser index title) (revealCell other index title) := by
  apply (ensureColumns_alike alike).bind
  intro _
  apply (revealRow_alike alike index).bind
  intro row
  apply known_alike.bind
  intro grid
  apply (Action.Alike.ofExcept _).bind
  intro id
  apply (columnScroller_alike alike).bind
  intro columns
  apply (contentBox_alike alike).bind
  intro box
  apply (alike.scrollTo columns.container _ _).bind
  intro _
  exact (Scroller.untilAccepted_alike alike (columnVisible_alike alike _) columns .right _).bind
    fun _ => .pure _

theorem revealHeader_alike (title : String) :
    Action.Alike (Beside matching) (revealHeader browser title) (revealHeader other title) := by
  apply (rowScroller_alike alike).bind
  intro rows
  apply (columnScroller_alike alike).bind
  intro columns
  apply (alike.scrollTo rows.container _ _).bind
  intro _
  apply (alike.scrollTo columns.container _ _).bind
  intro _
  apply known_alike.bind
  intro grid
  apply (contentBox_alike alike).bind
  intro box
  exact (Scroller.untilAccepted_alike alike (columnVisible_alike alike _) rows .right _).bind
    fun _ => .pure _

theorem searchRow_alike (expected : RowSpec) (limit : Nat) :
    Action.Alike (Beside matching) (searchRow browser expected limit)
      (searchRow other expected limit) := by
  apply (ensureColumns_alike alike).bind
  intro _
  apply (searchRows_alike alike expected limit 0).bind
  intro found
  cases found with
  | some index => exact .pure index
  | none => exact .throw _

theorem lookUpRow_alike (expected : RowSpec) :
    Action.Alike (Beside matching) (lookUpRow browser expected) (lookUpRow other expected) := by
  apply (ensureColumns_alike alike).bind
  intro _
  apply known_alike.bind
  intro grid
  apply (Action.Alike.ofExcept _).bind
  intro row
  apply (alike.find row).bind
  intro found
  exact readRowIndex_alike alike found

end Grid

end Locator
