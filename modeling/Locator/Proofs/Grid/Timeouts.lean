import Locator.Proofs.Grid.Alike
import Locator.Proofs.Page.Steady

/-!
# Timeouts of grids and dropdowns

Every operation on a grid, and the choice from a dropdown, puts the implicit timeout back, whatever calls of
the browser fail.
-/

namespace Locator

set_option autoImplicit false

variable {State Value Result : Type}

namespace Grid

/-- The three runs with a grid beside the session. -/
def runs (browser : Browser State) : Runs (Grid × State) (Grid × State × List TimeoutCall) where
  plain := browser.besideGrid
  recording := browser.recording.besideGrid
  unfailing := browser.unfailing.besideGrid
  record calls whole := (whole.1, whole.2, calls)
  steady := browser.Steady
  records _ _ _ := rfl
  passes _ _ := rfl
  sets steady milliseconds whole := steady.sets milliseconds whole.2
  recordedTimeout _ _ := rfl
  unfailingTimeout _ := rfl

theorem quiet_of_alike {action : (State : Type) → Browser (Grid × State) → GridAction State Value}
    (alike : ∀ {State State' : Type} {matching : State → State' → Prop} {browser : Browser (Grid × State)}
      {other : Browser (Grid × State')}, browser.Alike (Beside matching) other →
        Action.Alike (Beside matching) (action State browser) (action State' other))
    (browser : Browser State) :
    Quiet (runs browser) (action _ browser.besideGrid) (action _ browser.recording.besideGrid)
      (action _ browser.unfailing.besideGrid) := by
  constructor
  · intro calls whole
    obtain ⟨ending, sameGrid, after⟩ :=
      alike (browser.recording_alike calls).besideGrid whole (whole.1, whole.2, calls) ⟨rfl, rfl⟩
    exact Prod.ext ending.symm (Prod.ext sameGrid.symm after)
  · intro whole
    obtain ⟨ending, sameGrid, after⟩ := alike browser.unfailing_alike.besideGrid whole whole ⟨rfl, rfl⟩
    exact (Prod.ext ending (Prod.ext sameGrid after)).symm
  · intro steady whole
    have keeps := (steady.keeps (browser.implicitTimeout whole.2)).besideGrid
    exact (alike keeps whole whole ⟨rfl, rfl, rfl⟩).2.2.2

variable {browser : Browser State} {whole : Grid × State}

theorem quiet_known : Quiet (runs browser) known known known :=
  quiet_of_alike (fun _ => known_alike) browser

theorem guards_underTimeouts {plain : GridAction State Value}
    {recorded : GridAction (State × List TimeoutCall) Value} {unfailing : GridAction State Value}
    (quiet : Quiet (runs browser) plain recorded unfailing) :
    ∃ calls, Guards (runs browser) whole.1.settings.timeouts.during
      (fun _ => whole.1.settings.timeouts.after) whole calls
      (underTimeouts browser.besideGrid plain) (underTimeouts browser.recording.besideGrid recorded)
      (underTimeouts browser.unfailing.besideGrid unfailing) := by
  apply quiet_known.bind_guards
  intro grid after known
  cases known
  exact quiet.withTimeout whole.1.settings.timeouts.during rfl

end Grid

/-- An operation on a grid that may lower the implicit timeout. -/
inductive GridOperation : Type → Type where
  | findGrid : GridOperation Unit
  | findColumnIds : GridOperation (Keyed String)
  | revealRow (index : Nat) : GridOperation Path
  | revealCell (index : Nat) (title : String) : GridOperation Path
  | revealHeader (title : String) : GridOperation Path
  | findRowIndex (expected : RowSpec) : GridOperation Nat
  | openHeaderMenu (title : String) : GridOperation Unit
  | sortByHeader (title : String) : GridOperation Unit

def GridOperation.run (browser : Browser State) : GridOperation Value → GridAction State Value
  | .findGrid => browser.findGrid
  | .findColumnIds => browser.findColumnIds
  | .revealRow index => browser.revealRow index
  | .revealCell index title => browser.revealCell index title
  | .revealHeader title => browser.revealHeader title
  | .findRowIndex expected => browser.findRowIndex expected
  | .openHeaderMenu title => browser.openHeaderMenu title
  | .sortByHeader title => browser.sortByHeader title

namespace GridOperation

open Grid

variable {browser : Browser State} {whole : Grid × State}

/-- The three runs of an operation, from one state. -/
def Guarded (operation : GridOperation Value) (browser : Browser State) (whole : Grid × State) : Prop :=
  ∃ calls, Guards (Grid.runs browser) whole.1.settings.timeouts.during
    (fun _ => whole.1.settings.timeouts.after) whole calls (operation.run browser)
    (operation.run browser.recording) (operation.run browser.unfailing)

theorem findGrid_guarded : findGrid.Guarded browser whole := by
  apply quiet_known.bind_guards
  intro grid after known
  cases known
  apply (quiet_of_alike (fun alike => alike.find _) browser).bind_guards
  intro header after found
  have kept : after.1 = whole.1 := congrArg (fun ended => ended.2.1) found.symm
  have verified : Quiet (runs browser) _ _ _ := quiet_of_alike verify_alike browser
  cases whole.1.virtualized with
  | true =>
      have lowered : ∃ calls, Guards _ _ _ after calls _ _ _ := guards_underTimeouts verified
      rw [kept] at lowered
      exact lowered
  | false => exact ⟨[], verified.guards⟩

theorem findColumnIds_guarded : findColumnIds.Guarded browser whole := by
  obtain ⟨calls, guards⟩ : ∃ calls, Guards _ _ _ whole calls _ _ _ :=
    guards_underTimeouts (quiet_of_alike discoverColumns_alike browser)
  refine ⟨calls, guards.bind_quiet ?_⟩
  intro _
  exact quiet_of_alike (fun _ => known_alike.bind fun grid => .pure grid.columnIds) browser

theorem revealRow_guarded (index : Nat) : (revealRow index).Guarded browser whole :=
  guards_underTimeouts (quiet_of_alike (fun alike => revealRow_alike alike index) browser)

theorem revealCell_guarded (index : Nat) (title : String) :
    (revealCell index title).Guarded browser whole :=
  guards_underTimeouts (quiet_of_alike (fun alike => revealCell_alike alike index title) browser)

theorem revealHeader_guarded (title : String) : (revealHeader title).Guarded browser whole :=
  guards_underTimeouts (quiet_of_alike (fun alike => revealHeader_alike alike title) browser)

theorem findRowIndex_guarded (expected : RowSpec) :
    (findRowIndex expected).Guarded browser whole := by
  apply quiet_known.bind_guards
  intro grid after known
  cases known
  cases whole.1.virtualized with
  | true =>
      exact guards_underTimeouts
        (quiet_of_alike (fun alike => searchRow_alike alike expected _) browser)
  | false =>
      have lookedUp : Quiet (runs browser) _ _ _ :=
        quiet_of_alike (fun alike => lookUpRow_alike alike expected) browser
      exact ⟨[], lookedUp.guards⟩

theorem quiet_clickOn (target : Target) :
    Quiet (runs browser) (do let _ ← browser.besideGrid.clickOn target)
      (do let _ ← browser.recording.besideGrid.clickOn target)
      (do let _ ← browser.unfailing.besideGrid.clickOn target) :=
  quiet_of_alike (fun alike => (alike.clickOn target).bind fun _ => .pure ()) browser

theorem openHeaderMenu_guarded (title : String) : (openHeaderMenu title).Guarded browser whole := by
  obtain ⟨calls, guards⟩ : (revealHeader title).Guarded browser whole := revealHeader_guarded title
  refine ⟨calls, guards.bind_quiet ?_⟩
  intro header
  exact quiet_clickOn _

theorem sortByHeader_guarded (title : String) : (sortByHeader title).Guarded browser whole := by
  obtain ⟨calls, guards⟩ : (revealHeader title).Guarded browser whole := revealHeader_guarded title
  refine ⟨calls, guards.bind_quiet ?_⟩
  intro header
  exact quiet_clickOn _

theorem guarded (operation : GridOperation Value) : operation.Guarded browser whole := by
  cases operation with
  | findGrid => exact findGrid_guarded
  | findColumnIds => exact findColumnIds_guarded
  | revealRow index => exact revealRow_guarded index
  | revealCell index title => exact revealCell_guarded index title
  | revealHeader title => exact revealHeader_guarded title
  | findRowIndex expected => exact findRowIndex_guarded expected
  | openHeaderMenu title => exact openHeaderMenu_guarded title
  | sortByHeader title => exact sortByHeader_guarded title

end GridOperation

/-! ## Dropdowns -/

theorem Browser.selectInDropdown_guards (browser : Browser State) (content choice : Path)
    (settings : DropdownSettings) (state : State) :
    ∃ calls, Guards browser.runs settings.lookupTimeout id state calls
      (browser.selectInDropdown content choice settings)
      (browser.recording.selectInDropdown content choice settings)
      (browser.unfailing.selectInDropdown content choice settings) := by
  apply (Quiet.of_alike (fun alike => Scroller.ofTarget_alike alike _) browser).bind_guards
  intro scroller after _
  apply (Quiet.of_alike (fun alike => alike.scrollTo _ _ _) browser).bind_guards
  intro _ start _
  have searched (list : Scroller) : Quiet browser.runs
      (list.untilAccepted browser .down choice (browser.liesInList list.container)) _ _ :=
    Quiet.of_alike (fun alike => Scroller.untilAccepted_alike alike (alike.liesInList list.container)
      list .down choice) browser
  obtain ⟨calls, guards⟩ : ∃ calls, Guards _ _ _ start calls _ _ _ :=
    (searched (scroller.withStep settings.step)).withLoweredTimeout settings.lookupTimeout
  refine ⟨calls, guards.bind_quiet ?_⟩
  intro _
  exact Quiet.of_alike (fun alike => (alike.clickOn _).bind fun _ => .pure ()) browser

/-! ## Main result -/

/-- The calls by which an operation on a grid sets the implicit timeout. -/
def GridOperation.timeoutCalls (operation : GridOperation Value) (browser : Browser State) (grid : Grid)
    (state : State) : List TimeoutCall :=
  ((operation.run browser.recording).outcome (grid, state, [])).2.2.2

/-- The calls by which the choice from a dropdown sets the implicit timeout. -/
def Browser.dropdownTimeoutCalls (browser : Browser State) (content choice : Path)
    (settings : DropdownSettings) (state : State) : List TimeoutCall :=
  ((browser.recording.selectInDropdown content choice settings).outcome (state, [])).2.2

/-- In every browser, an operation on a grid sets the implicit timeout to the final one if it has lowered it,
and the choice from a dropdown sets it to the one before. That the record is kept changes nothing else, and
neither does a failure of the second call. On a page, the timeout afterwards is the one that was set, or the
one before. -/
theorem implicitTimeout_putBack :
    (∀ {State Value : Type} (browser : Browser State) (operation : GridOperation Value) (grid : Grid)
        (state : State),
      let ended := (operation.run browser).outcome (grid, state)
      let calls := operation.timeoutCalls browser grid state
      PutBack grid.settings.timeouts.during (fun _ => grid.settings.timeouts.after) ended.1 calls ∧
        (operation.run browser.recording).outcome (grid, state, []) =
          (ended.1, ended.2.1, ended.2.2, calls) ∧
        (calls.length = 2 → (operation.run browser.unfailing).outcome (grid, state) = ended)) ∧
    (∀ {State : Type} (browser : Browser State) (content choice : Path) (settings : DropdownSettings)
        (state : State),
      let ended := (browser.selectInDropdown content choice settings).outcome state
      let calls := browser.dropdownTimeoutCalls content choice settings state
      PutBack settings.lookupTimeout id ended.1 calls ∧
        (browser.recording.selectInDropdown content choice settings).outcome (state, []) =
          (ended.1, ended.2, calls) ∧
        (calls.length = 2 →
          (browser.unfailing.selectInDropdown content choice settings).outcome state = ended)) ∧
    (∀ {Value : Type} (operation : GridOperation Value) (grid : Grid) (page : Page),
      ((operation.run Page.browser).outcome (grid, page)).2.2.implicitTimeout =
        if (operation.timeoutCalls Page.browser grid page).isEmpty then page.implicitTimeout
        else grid.settings.timeouts.after) ∧
    ∀ (content choice : Path) (settings : DropdownSettings) (page : Page),
      ((Page.browser.selectInDropdown content choice settings).outcome page).2.implicitTimeout =
        page.implicitTimeout := by
  refine ⟨?_, ?_, ?_, ?_⟩
  · intro State Value browser operation grid state
    obtain ⟨calls, guards⟩ : operation.Guarded browser (grid, state) := operation.guarded
    have recorded := guards.recorded []
    have same : operation.timeoutCalls browser grid state = calls :=
      congrArg (fun ended => ended.2.2.2) recorded
    simp only [same]
    exact ⟨guards.putBack, recorded, guards.unfailing⟩
  · intro State browser content choice settings state
    obtain ⟨calls, guards⟩ := browser.selectInDropdown_guards content choice settings state
    have recorded := guards.recorded []
    have same : browser.dropdownTimeoutCalls content choice settings state = calls :=
      congrArg (fun ended => ended.2.2) recorded
    simp only [same]
    exact ⟨guards.putBack, recorded, guards.unfailing⟩
  · intro Value operation grid page
    obtain ⟨calls, guards⟩ : operation.Guarded Page.browser (grid, page) := operation.guarded
    have same : operation.timeoutCalls Page.browser grid page = calls :=
      congrArg (fun ended => ended.2.2.2) (guards.recorded [])
    rw [same]
    exact guards.settled Page.browser_steady
  · intro content choice settings page
    obtain ⟨calls, guards⟩ := Page.browser.selectInDropdown_guards content choice settings page
    have settled := guards.settled Page.browser_steady
    exact settled.trans (ite_self _)

/-- A session that has lost its page. Its state is the implicit timeout, which can only be made short. -/
def lostSession : Browser Nat where
  find _ := throw ⟨.driver, "lost"⟩
  findAll _ := throw ⟨.driver, "lost"⟩
  click _ := throw ⟨.driver, "lost"⟩
  sendKeys _ _ := throw ⟨.driver, "lost"⟩
  clear _ := throw ⟨.driver, "lost"⟩
  attribute? _ _ := throw ⟨.driver, "lost"⟩
  rect _ := throw ⟨.driver, "lost"⟩
  isDisplayed _ := throw ⟨.driver, "lost"⟩
  scrollBy _ _ _ := throw ⟨.driver, "lost"⟩
  scrollTo _ _ _ := throw ⟨.driver, "lost"⟩
  scrollOffset _ := throw ⟨.driver, "lost"⟩
  setImplicitTimeout milliseconds :=
    if milliseconds < 100 then Action.update fun _ => milliseconds else throw ⟨.driver, "too long"⟩
  implicitTimeout := id

/-- A row is looked for in vain, and that the final timeout is refused does not show. -/
theorem implicitTimeout_putBack_lost :
    let grid : Grid := ⟨[], [], true, false, .inside Html.html, {}, .empty, none⟩
    (GridOperation.revealRow 0).timeoutCalls lostSession grid 700 =
        [⟨700, 5, .ok ()⟩, ⟨5, 5000, .error ⟨.driver, "too long"⟩⟩] ∧
      ((GridOperation.revealRow 0).run lostSession.unfailing).outcome (grid, 700) =
        (.error ⟨.driver, "lost"⟩, grid, 5) := by
  intro grid
  have putBack := implicitTimeout_putBack.1 lostSession (.revealRow 0) grid 700
  exact ⟨rfl, putBack.2.2 rfl⟩

end Locator
