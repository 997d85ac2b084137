import Locator.Proofs.Grid.Columns

/-!
# The paths that a grid answers with

To bring a row, a cell or a header into view ends with its path. The places of the grid are never learnt anew, so
it is the path that the grid had for it from the start.
-/

namespace Locator

open Locator.Action

set_option autoImplicit false

theorem Action.Keeps.answer {State Value : Type} {kept : State → Prop} {action : Action State Value}
    (good : Value → Prop) {bad : Error → Prop} {state : State} {value : Value} (keeps : Keeps kept action good bad)
    (start : kept state) (ended : (action.outcome state).1 = .ok value) : good value := by
  have concluded := keeps state start
  generalize action.outcome state = outcome at ended concluded
  obtain ⟨result, after⟩ := outcome
  cases ended
  exact concluded.1

namespace Grid

variable {State Value : Type} {browser : Browser State} {grid now : Grid} {index : Nat} {title : String}

/-- The grid has the places that it was built with. -/
def SamePlaces (grid : Grid) (whole : Grid × State) : Prop :=
  whole.1.regions = grid.regions

theorem besideGrid_samePlaces : browser.besideGrid.Confined grid.SamePlaces fun _ => True :=
  besideGrid_confined browser.confined_trivially fun now => now.regions = grid.regions

theorem samePlaces_allows : Allows (fun whole : Grid × State => grid.SamePlaces whole) fun _ => True :=
  ⟨fun _ _ => trivial, fun _ _ same => same⟩

theorem Knowing.regions {ids : Keyed String} (knowing : grid.Knowing ids now) : now.regions = grid.regions := by
  cases knowing
  rfl

theorem ensureColumns_samePlaces : Confined grid.SamePlaces (ensureColumns browser.besideGrid) fun _ => True := by
  rintro ⟨now, state⟩ same
  have finding : now.Finding _ (ensureColumns browser.besideGrid) fun _ => True :=
    ensureColumns_finding browser.confined_trivially fun _ _ => trivial
  apply Concludes.weaken finding
  · rintro value whole ⟨found, _, knowing⟩
    exact ⟨trivial, knowing.regions.trans same⟩
  · rintro error whole ⟨_, count, _, found, _, knowing⟩
    exact ⟨trivial, knowing.regions.trans same⟩
  · exact .mk now.columnViewport

/-! ## Under the timeouts -/

theorem keeps_underTimeouts {kept : Grid × State → Prop} {good : Value → Prop} {bad : Error → Prop}
    {beside : Browser (Grid × State)} {body : GridAction State Value} (confined : beside.Confined kept bad)
    (keeps : Keeps kept body good bad) : Keeps kept (underTimeouts beside body) good bad := by
  apply Concludes.underTimeouts _ keeps
  · exact fun milliseconds value whole ended => ⟨ended.1, (confined.setImplicitTimeout milliseconds).keeps ended.2⟩
  · exact fun milliseconds error whole ended => ⟨ended.1, (confined.setImplicitTimeout milliseconds).keeps ended.2⟩
  · intro milliseconds
    exact Concludes.weaken (confined.setImplicitTimeout milliseconds) (fun _ _ ended => ended.2) fun _ _ ended => ended

/-- What is true of every answer of an action under the timeouts, when the grid starts with its places. -/
theorem answer_underTimeouts (good : Value → Prop) {body : GridAction State Value} {state : State} {value : Value}
    (keeps : Keeps grid.SamePlaces body good fun _ => True)
    (ended : ((underTimeouts browser.besideGrid body).outcome (grid, state)).1 = .ok value) : good value := by
  have kept : Keeps grid.SamePlaces (underTimeouts browser.besideGrid body) good fun _ => True :=
    keeps_underTimeouts besideGrid_samePlaces keeps
  have start : grid.SamePlaces (grid, state) := rfl
  exact kept.answer good start ended

/-! ## Rows, cells and headers -/

theorem revealRow_answers :
    Keeps grid.SamePlaces (revealRow browser.besideGrid index) (fun row => row = grid.rowPath index) fun _ => True := by
  have confined : browser.besideGrid.Confined grid.SamePlaces fun _ => True := besideGrid_samePlaces
  apply Keeps.bind known_reads
  rintro now ⟨state, same⟩
  have asked : now.rowPath index = grid.rowPath index := by
    unfold rowPath
    rw [show now.regions = grid.regions from same]
  apply Keeps.bind (contentBox_confined confined)
  intro box _
  apply Keeps.bind (rowVisibleNow_confined confined _ _)
  intro visible _
  cases visible with
  | true => exact .pure asked
  | false =>
      apply Keeps.bind (rowScroller_confined confined)
      intro rows _
      apply Keeps.bind (columnScroller_confined samePlaces_allows confined)
      intro columns _
      apply Keeps.bind (confined.scrollTo rows.container _ _)
      intro _ _
      apply Keeps.bind (confined.scrollTo columns.container _ _)
      intro _ _
      exact Keeps.bind (Scroller.untilAccepted_confined confined (rowVisible_confined confined _)
        (fun _ _ => trivial) rows .down _) fun _ _ => .pure asked

theorem revealCell_answers :
    Keeps grid.SamePlaces (revealCell browser.besideGrid index title)
      (fun cell => ∃ id, cell = cellPath (grid.rowPath index) id) fun _ => True := by
  have confined : browser.besideGrid.Confined grid.SamePlaces fun _ => True := besideGrid_samePlaces
  apply Keeps.bind ensureColumns_samePlaces
  intro _ _
  apply Keeps.bind revealRow_answers
  rintro row rfl
  apply Keeps.bind known_reads
  rintro now _
  apply Keeps.bind (Keeps.ofExcept (fun _ _ => trivial) (fun _ _ => trivial))
  intro id _
  apply Keeps.bind (columnScroller_confined samePlaces_allows confined)
  intro columns _
  apply Keeps.bind (contentBox_confined confined)
  intro box _
  apply Keeps.bind (confined.scrollTo columns.container _ _)
  intro _ _
  exact Keeps.bind (Scroller.untilAccepted_confined confined (columnVisible_confined confined _)
    (fun _ _ => trivial) columns .right _) fun _ _ => .pure ⟨id, rfl⟩

theorem revealHeader_answers :
    Keeps grid.SamePlaces (revealHeader browser.besideGrid title) (fun header => header = grid.headerPath title)
      fun _ => True := by
  have confined : browser.besideGrid.Confined grid.SamePlaces fun _ => True := besideGrid_samePlaces
  apply Keeps.bind (rowScroller_confined confined)
  intro rows _
  apply Keeps.bind (columnScroller_confined samePlaces_allows confined)
  intro columns _
  apply Keeps.bind (confined.scrollTo rows.container _ _)
  intro _ _
  apply Keeps.bind (confined.scrollTo columns.container _ _)
  intro _ _
  apply Keeps.bind known_reads
  rintro now ⟨state, same⟩
  have asked : now.headerPath title = grid.headerPath title := by
    unfold headerPath
    rw [show now.regions = grid.regions from same]
  apply Keeps.bind (contentBox_confined confined)
  intro box _
  exact Keeps.bind (Scroller.untilAccepted_confined confined (columnVisible_confined confined _)
    (fun _ _ => trivial) rows .right _) fun _ _ => .pure asked

section Answers

variable {state : State} {path : Path}

theorem answer_revealRow (ended : ((browser.revealRow index).outcome (grid, state)).1 = .ok path) :
    path = grid.rowPath index :=
  answer_underTimeouts (fun row => row = grid.rowPath index) revealRow_answers ended

theorem answer_revealCell (ended : ((browser.revealCell index title).outcome (grid, state)).1 = .ok path) :
    ∃ id, path = cellPath (grid.rowPath index) id :=
  answer_underTimeouts (fun cell => ∃ id, cell = cellPath (grid.rowPath index) id) revealCell_answers ended

theorem answer_revealHeader (ended : ((browser.revealHeader title).outcome (grid, state)).1 = .ok path) :
    path = grid.headerPath title :=
  answer_underTimeouts (fun header => header = grid.headerPath title) revealHeader_answers ended

end Answers

end Grid

end Locator
