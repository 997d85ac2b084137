import Locator.Proofs.Browser.Confined

/-!
# How operations on grids fail

What is looked for in a grid whose column ids are not touched fails as the browser does, or because
something is missing, or because the id of a column is not known. Besides the column ids, only the container
that scrolls columns is learnt on the way.
-/

namespace Locator

open Locator.Action

set_option autoImplicit false

variable {State Value : Type} {kept : Grid × State → Prop} {bad : Error → Prop}

namespace Grid

/-- The error of a column whose id is not known. -/
def unknownColumn (title : String) : Error :=
  ⟨.invalidArgument, "unknown column '" ++ title ++ "'"⟩

theorem unknownColumn_inj {title other : String} : unknownColumn title = unknownColumn other ↔ title = other := by
  simp [unknownColumn]

theorem columnId?_eq_error_iff {grid : Grid} {title : String} {error : Error} :
    grid.columnId? title = .error error ↔ grid.columnIds.get? title = none ∧ error = unknownColumn title := by
  unfold columnId? unknownColumn
  cases grid.columnIds.get? title <;> simp [eq_comm]

/-- What a condition on grid and session, and one on errors, have to allow for looking around in a grid. -/
structure Allows (kept : Grid × State → Prop) (bad : Error → Prop) : Prop where
  others : ∀ error, error.cause ≠ .invalidArgument → bad error
  viewport : ∀ whole path, kept whole → kept ({ whole.1 with columnViewport := some path }, whole.2)

/-- What they have to allow where the ids of columns are used. -/
structure AllowsCells (kept : Grid × State → Prop) (bad : Error → Prop) : Prop extends Allows kept bad where
  unknown : ∀ whole title, kept whole → whole.1.columnIds.get? title = none → bad (unknownColumn title)

theorem known_reads : Keeps kept known (fun grid => ∃ state, kept (grid, state)) bad := by
  intro whole holds
  exact ⟨⟨whole.2, holds⟩, holds⟩

theorem known_confined : Confined kept known bad := by
  intro whole holds
  exact ⟨trivial, holds⟩

section Allowed

variable (allows : Allows kept bad) {browser : Browser (Grid × State)} (confined : browser.Confined kept bad)

include allows confined

/-! ## Scrollers -/

theorem columnContainer_confined : Confined kept (columnContainer browser) bad := by
  apply known_confined.bind
  intro grid
  cases grid.columnViewport with
  | some path => exact .pure path
  | none =>
      apply (confined.isPresent _).bind
      intro present
      apply Confined.bind _ fun _ => .pure _
      intro whole holds
      exact ⟨trivial, allows.viewport whole _ holds⟩

omit allows in
theorem rowScroller_confined : Confined kept (rowScroller browser) bad := by
  apply known_confined.bind
  intro grid
  exact (Scroller.ofTarget_confined confined _).bind fun scroller => .pure _

theorem columnScroller_confined : Confined kept (columnScroller browser) bad := by
  apply (columnContainer_confined allows confined).bind
  intro container
  apply (Scroller.ofTarget_confined confined _).bind
  intro scroller
  exact known_confined.bind fun grid => .pure _

theorem findHeader_confined (columns : Option Scroller) (header : Path) :
    Confined kept (findHeader browser columns header) bad := by
  cases columns with
  | some scroller => exact Scroller.untilPresent_confined confined allows.others scroller .right header
  | none => exact confined.find header

/-! ## Rows and cells -/

omit allows in
theorem contentBox_confined : Confined kept (contentBox browser) bad := by
  apply known_confined.bind
  intro grid
  exact (confined.find _).bind fun content => confined.rect content

omit allows in
theorem rowVisible_confined (bottom : Int) (element : Handle) :
    Confined kept (rowVisible browser bottom element) bad := by
  apply (confined.isDisplayed element).bind
  intro displayed
  cases displayed with
  | true => exact (confined.rect element).bind fun box => .pure _
  | false => exact .pure false

omit allows in
theorem columnVisible_confined (right : Int) (element : Handle) :
    Confined kept (columnVisible browser right element) bad := by
  apply (confined.isDisplayed element).bind
  intro displayed
  cases displayed with
  | true => exact (confined.rect element).bind fun box => .pure _
  | false => exact .pure false

omit allows in
theorem rowVisibleNow_confined (row : Path) (bottom : Int) :
    Confined kept (rowVisibleNow browser row bottom) bad := by
  apply (confined.findAll row).attempt_bind
  · intro candidates
    exact (Scroller.firstAccepted_confined (rowVisible_confined confined bottom) candidates).bind
      fun found => .pure found.isSome
  · intro error fails
    exact Confined.unlessMissing (.pure false) fails

theorem revealRow_confined (index : Nat) : Confined kept (revealRow browser index) bad := by
  apply known_confined.bind
  intro grid
  apply (contentBox_confined confined).bind
  intro box
  apply (rowVisibleNow_confined confined _ _).bind
  intro visible
  cases visible with
  | true => exact .pure _
  | false =>
      apply (rowScroller_confined confined).bind
      intro rows
      apply (columnScroller_confined allows confined).bind
      intro columns
      apply (confined.scrollTo rows.container _ _).bind
      intro _
      apply (confined.scrollTo columns.container _ _).bind
      intro _
      exact (Scroller.untilAccepted_confined confined (rowVisible_confined confined _) allows.others rows .down
        _).bind fun _ => .pure _

theorem revealHeader_confined (title : String) : Confined kept (revealHeader browser title) bad := by
  apply (rowScroller_confined confined).bind
  intro rows
  apply (columnScroller_confined allows confined).bind
  intro columns
  apply (confined.scrollTo rows.container _ _).bind
  intro _
  apply (confined.scrollTo columns.container _ _).bind
  intro _
  apply known_confined.bind
  intro grid
  apply (contentBox_confined confined).bind
  intro box
  exact (Scroller.untilAccepted_confined confined (columnVisible_confined confined _) allows.others rows .right
    _).bind fun _ => .pure _

theorem refuseRow_confined (index : Nat) : Confined kept (refuseRow browser index) bad := by
  apply known_confined.bind
  intro grid
  by_cases virtualized : grid.virtualized = true
  · simp only [virtualized, if_true]
    apply (rowScroller_confined confined).bind
    intro rows
    apply (Scroller.untilPresent_confined confined allows.others rows .down _).attempt_bind
    · exact fun _ => .throw (allows.others _ (by simp))
    · exact fun error fails => Confined.unlessMissing (.pure ()) fails
  · simp only [virtualized, Bool.false_eq_true, if_false]
    apply (confined.find _).attempt_bind
    · exact fun _ => .throw (allows.others _ (by simp))
    · exact fun error fails => Confined.unlessMissing (.pure ()) fails

theorem readRowIndex_confined (row : Handle) : Confined kept (readRowIndex browser row) bad := by
  apply (confined.attribute? row rowIndexAttribute).bind
  intro value
  cases value with
  | none => exact .throw (allows.others _ (by simp))
  | some value =>
      cases parsed : rowIndex? value with
      | none => simpa only [parsed] using Confined.throw (allows.others _ (by simp))
      | some index => simpa only [parsed] using Confined.pure index

end Allowed

/-! ## Where ids of columns are used -/

section Cells

variable (allows : AllowsCells kept bad)

include allows

theorem columnId?_confined {grid : Grid} {state : State} (holds : kept (grid, state)) (title : String) :
    Confined kept (ofExcept (grid.columnId? title)) bad := by
  apply Keeps.ofExcept
  · exact fun _ _ => trivial
  · intro error ended
    obtain ⟨missing, rfl⟩ := columnId?_eq_error_iff.mp ended
    exact allows.unknown (grid, state) title holds missing

theorem withCells_confined {grid : Grid} {state : State} (holds : kept (grid, state)) (row : Path)
    (cells : List (String × Property)) : Confined kept (ofExcept (grid.withCells row cells)) bad := by
  induction cells generalizing row with
  | nil => exact .pure row
  | cons cell cells ih =>
      obtain ⟨title, expected⟩ := cell
      unfold withCells
      cases found : grid.columnId? title with
      | error error =>
          obtain ⟨missing, rfl⟩ := columnId?_eq_error_iff.mp found
          exact .throw (allows.unknown (grid, state) title holds missing)
      | ok id => exact ih _

variable {browser : Browser (Grid × State)} (confined : browser.Confined kept bad)

include confined

theorem findCells_confined (columns : Scroller) (row : Path) (cells : List (String × Property)) :
    Confined kept (findCells browser columns row cells) bad := by
  induction cells with
  | nil => exact .pure ()
  | cons cell cells ih =>
      apply known_reads.bind
      rintro grid ⟨state, holds⟩
      apply (columnId?_confined allows holds _).bind
      intro id
      apply (Scroller.untilPresent_confined confined allows.others columns .right _).bind
      intro _
      exact (confined.scrollTo columns.container _ _).bind fun _ => ih

theorem findRow_confined (index : Nat) (expected : RowSpec) :
    Confined kept (findRow browser index expected) bad := by
  apply (rowScroller_confined confined).bind
  intro rows
  apply (columnScroller_confined allows.toAllows confined).bind
  intro columns
  apply (confined.scrollTo rows.container _ _).bind
  intro _
  apply (confined.scrollTo columns.container _ _).bind
  intro _
  apply known_confined.bind
  intro grid
  apply (Scroller.untilPresent_confined confined allows.others rows .down _).attempt_bind
  · intro _
    apply (findCells_confined allows confined columns _ expected.cells).bind
    intro _
    apply (contentBox_confined confined).bind
    intro box
    exact (Scroller.untilAccepted_confined confined (rowVisible_confined confined _) allows.others rows .down
      _).bind fun _ => .pure ()
  · intro error fails
    apply Confined.throw
    unfold rowMissing
    split
    · exact allows.others _ (by simp)
    · exact fails

theorem findRows_confined (index : Nat) (rows : List RowSpec) :
    Confined kept (findRows browser index rows) bad := by
  induction rows generalizing index with
  | nil => exact .pure ()
  | cons expected others ih =>
      apply known_reads.bind
      rintro grid ⟨state, holds⟩
      by_cases virtualized : grid.virtualized = true
      · simp only [virtualized, if_true]
        exact (findRow_confined allows confined index expected).bind fun _ => ih (index + 1)
      · simp only [virtualized, Bool.false_eq_true, if_false]
        apply (withCells_confined allows holds _ _).bind
        intro row
        exact (confined.find row).bind fun _ => ih (index + 1)

theorem searchRows_confined (expected : RowSpec) (count index : Nat) :
    Confined kept (searchRows browser expected count index) bad := by
  induction count generalizing index with
  | zero => exact .pure none
  | succ count ih =>
      apply (findRow_confined allows confined index expected).attempt_bind
      · exact fun _ => .pure (some index)
      · exact fun error fails => Confined.unlessMissing (ih (index + 1)) fails

end Cells

end Grid

end Locator
