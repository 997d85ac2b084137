import Locator.Proofs.Grid.Confined
import Locator.Proofs.Grid.RowSearch
import Locator.Proofs.Grid.Sight

/-!
# Why rows are passed over

The search for a row passes over every index for which something is not found, whatever that is: an expected cell,
but also a place of the grid, or the row itself where it should be visible. Only a row that is missing ends it.
-/

namespace Locator

open Locator.Action Locator.Page

set_option autoImplicit false

namespace Action

variable {State Value Result : Type}

/-- The action ends with a value. -/
def Gives (action : Action State Value) (start : State) (value : Value) (after : State) : Prop :=
  action.outcome start = (.ok value, after)

/-- The action ends because something was not found. -/
def Misses (action : Action State Value) (start after : State) : Prop :=
  ∃ error, action.outcome start = (.error error, after) ∧ error.isNotFound = true

variable {action : Action State Value} {next : Value → Action State Result} {start after : State}

theorem misses_bind_iff : Misses (action >>= next) start after ↔
    Misses action start after ∨ ∃ value middle, Gives action start value middle ∧ Misses (next value) middle after := by
  unfold Misses Gives
  cases ended : action.outcome start with
  | mk result middle =>
      cases result with
      | error error =>
          rw [outcome_bind_of_error ended]
          simp
      | ok value =>
          rw [outcome_bind_of_ok ended]
          simp

theorem gives_bind_iff {value : Result} : Gives (action >>= next) start value after ↔
    ∃ first middle, Gives action start first middle ∧ Gives (next first) middle value after := by
  unfold Gives
  cases ended : action.outcome start with
  | mk result middle =>
      cases result with
      | error error =>
          rw [outcome_bind_of_error ended]
          simp
      | ok first =>
          rw [outcome_bind_of_ok ended]
          simp

/-- An error that is turned into a value may be told apart by what follows. -/
theorem misses_attempt_bind_iff {next : Except Error Value → Action State Result} :
    Misses (action.attempt >>= next) start after ↔
      (∃ error middle, action.outcome start = (.error error, middle) ∧ Misses (next (.error error)) middle after) ∨
        ∃ value middle, Gives action start value middle ∧ Misses (next (.ok value)) middle after := by
  unfold Misses Gives
  rw [outcome_bind_of_ok (outcome_attempt action start)]
  cases action.outcome start with
  | mk result middle => cases result <;> simp

theorem Gives.not_misses {value : Value} {other : State} (gives : Gives action start value after) :
    ¬Misses action start other := by
  rintro ⟨error, ended, _⟩
  cases ended.symm.trans gives

theorem misses_known_iff {Whole : Type} {next : Grid → GridAction Whole Value} {start after : Grid × Whole} :
    Misses (Grid.known >>= next) start after ↔ Misses (next start.1) start after := by
  unfold Misses
  rw [outcome_bind_of_ok (outcome_known start)]

theorem not_misses_pure {value : Value} : ¬Misses (pure value : Action State Value) start after := by
  rintro ⟨error, ended, _⟩
  cases ended

end Action

namespace Grid

/-- What was not found when a row is passed over. -/
inductive Missed where
  /-- The viewport of the rows. -/
  | viewport
  /-- The container that scrolls the columns. -/
  | columns
  /-- An expected cell of the row. -/
  | cell
  /-- The content of the grid. -/
  | content
  /-- A match of the row that is visible. -/
  | visible
  deriving DecidableEq

variable {grid : Grid} {page : Page} {index : Nat} {expected : RowSpec} {whole after : Grid × Page}

/-- One of the cells of a row is not found after those before it have been. -/
inductive LacksCell (columns : Scroller) (row : Path) :
    List (String × Property) → Grid × Page → Grid × Page → Prop where
  | here {title id : String} {property : Property} {cells : List (String × Property)} {whole after : Grid × Page}
      (known : whole.1.columnId? title = .ok id)
      (missed : Misses (columns.untilPresent Page.browser.besideGrid .right ((cellPath row id).and property))
        whole after) :
      LacksCell columns row ((title, property) :: cells) whole after
  | later {title id : String} {property : Property} {cells : List (String × Property)} {found : Handle}
      {whole scrolled back after : Grid × Page} (known : whole.1.columnId? title = .ok id)
      (there : Gives (columns.untilPresent Page.browser.besideGrid .right ((cellPath row id).and property)) whole found
        scrolled)
      (returns : Gives (columns.toLeftEdge Page.browser.besideGrid) scrolled () back)
      (missed : LacksCell columns row cells back after) :
      LacksCell columns row ((title, property) :: cells) whole after

/-- A row is passed over, for what has been missed. -/
inductive PassedFor (index : Nat) (expected : RowSpec) (whole : Grid × Page) : Missed → Grid × Page → Prop where
  | viewport {after : Grid × Page} (missing : whole.1.rowContainerOn whole.2 = none)
      (missed : Misses (rowScroller Page.browser.besideGrid) whole after) :
      PassedFor index expected whole .viewport after
  | columns {rows : Scroller} {looked after : Grid × Page}
      (found : Gives (rowScroller Page.browser.besideGrid) whole rows looked)
      (missing : whole.1.columnContainerOn whole.2 = none)
      (missed : Misses (columnScroller Page.browser.besideGrid) looked after) :
      PassedFor index expected whole .columns after
  | cell {scrollers : Scroller × Scroller} {row : Handle} {started reached after : Grid × Page}
      (start : Gives (atStart Page.browser.besideGrid) whole scrollers started)
      (present : Gives (scrollers.1.untilPresent Page.browser.besideGrid .down (whole.1.rowPath index)) started row
        reached)
      (missed : LacksCell scrollers.2 (whole.1.rowPath index) expected.cells reached after) :
      PassedFor index expected whole .cell after
  | content {scrollers : Scroller × Scroller} {row : Handle} {started reached searched after : Grid × Page}
      (start : Gives (atStart Page.browser.besideGrid) whole scrollers started)
      (present : Gives (scrollers.1.untilPresent Page.browser.besideGrid .down (whole.1.rowPath index)) started row
        reached)
      (celled : Gives (findCells Page.browser.besideGrid scrollers.2 (whole.1.rowPath index) expected.cells) reached ()
        searched)
      (missing : searched.2.first? searched.1.regions.content = none)
      (missed : Misses (contentBox Page.browser.besideGrid) searched after) :
      PassedFor index expected whole .content after
  | visible {scrollers : Scroller × Scroller} {row : Handle} {box : Rect}
      {started reached searched measured after : Grid × Page}
      (start : Gives (atStart Page.browser.besideGrid) whole scrollers started)
      (present : Gives (scrollers.1.untilPresent Page.browser.besideGrid .down (whole.1.rowPath index)) started row
        reached)
      (celled : Gives (findCells Page.browser.besideGrid scrollers.2 (whole.1.rowPath index) expected.cells) reached ()
        searched)
      (measures : Gives (contentBox Page.browser.besideGrid) searched box measured)
      (missed : Misses (scrollers.1.untilAccepted Page.browser.besideGrid .down (whole.1.rowPath index)
        (rowVisible Page.browser.besideGrid box.bottom)) measured after) :
      PassedFor index expected whole .visible after

/-- A search of `count` rows from `index` on that has passed over rows for what has been missed of them. -/
inductive Probed (expected : RowSpec) : (count index : Nat) → Grid × Page → List Missed →
    Except Error (Option Nat) × (Grid × Page) → Prop where
  | exhausted {index : Nat} {whole : Grid × Page} : Probed expected 0 index whole [] (.ok none, whole)
  | found {count index : Nat} {whole after : Grid × Page}
      (finds : Gives (findRow Page.browser.besideGrid index expected) whole () after) :
      Probed expected (count + 1) index whole [] (.ok (some index), after)
  | failed {count index : Nat} {whole after : Grid × Page} {error : Error}
      (fails : (findRow Page.browser.besideGrid index expected).outcome whole = (.error error, after))
      (other : error.isNotFound = false) :
      Probed expected (count + 1) index whole [] (.error error, after)
  | passed {count index : Nat} {whole next : Grid × Page} {missed : Missed} {others : List Missed}
      {ended : Except Error (Option Nat) × (Grid × Page)} (passes : PassedFor index expected whole missed next)
      (rest : Probed expected count (index + 1) next others ended) :
      Probed expected (count + 1) index whole (missed :: others) ended

/-! ## One row -/

theorem misses_found_iff {State Value : Type} {action : Action State Value} {start after reached : State} {path : Path}
    {read : Handle → Except Error Value} (ended : action.outcome start = (page.found path >>= read, reached))
    (reads : ∀ handle error, read handle = .error error → error.isNotFound = false) :
    Misses action start after ↔ page.first? path = none ∧ after = reached := by
  unfold Misses
  rw [ended, found]
  cases page.first? path with
  | none =>
      constructor
      · rintro ⟨error, same, _⟩
        exact ⟨rfl, (congrArg Prod.snd same).symm⟩
      · rintro ⟨_, rfl⟩
        exact ⟨_, rfl, rfl⟩
  | some handle =>
      constructor
      · rintro ⟨error, same, notFound⟩
        rw [reads handle error (congrArg Prod.fst same)] at notFound
        cases notFound
      · rintro ⟨missing, _⟩
        cases missing

theorem rowScroller_misses_iff : Misses (rowScroller Page.browser.besideGrid) whole after ↔
    whole.1.rowContainerOn whole.2 = none ∧
      after = (whole.1, whole.2.record (.find whole.1.regions.viewport.toXPath)) := by
  have ended : (rowScroller Page.browser.besideGrid).outcome whole =
      (whole.2.found whole.1.regions.viewport >>= fun handle => .ok (Scroller.mk handle whole.1.settings.scroll),
        whole.1, whole.2.record (.find whole.1.regions.viewport.toXPath)) := by
    rw [outcome_rowScroller]
    cases whole.2.found whole.1.regions.viewport <;> rfl
  exact misses_found_iff ended (by rintro handle error ⟨⟩)

theorem rowScroller_leaves {rows : Scroller} (found : Gives (rowScroller Page.browser.besideGrid) whole rows after) :
    after = (whole.1, whole.2.record (.find whole.1.regions.viewport.toXPath)) :=
  congrArg Prod.snd (found.symm.trans (outcome_rowScroller whole.1 whole.2))

theorem columnScroller_misses (grid : Grid) (page : Page) :
    ∃ sought, Same page sought ∧ ∀ after, Misses (columnScroller Page.browser.besideGrid) (grid, page) after ↔
      grid.columnContainerOn page = none ∧ after = (grid.located page, sought) := by
  obtain ⟨sought, same, ended⟩ := outcome_columnScroller grid page
  have read : (columnScroller Page.browser.besideGrid).outcome (grid, page) =
      (page.found (grid.columnPlace page) >>= fun handle => .ok (Scroller.mk handle grid.settings.scroll),
        grid.located page, sought) := by
    rw [ended]
    cases page.found (grid.columnPlace page) <;> rfl
  exact ⟨sought, same, fun after => misses_found_iff read (by rintro handle error ⟨⟩)⟩

theorem contentBox_misses_iff : Misses (contentBox Page.browser.besideGrid) whole after ↔
    whole.2.first? whole.1.regions.content = none ∧
      after = (whole.1, whole.2.record (.find whole.1.regions.content.toXPath)) := by
  apply misses_found_iff (outcome_contentBox whole.1 whole.2)
  intro handle error stale
  unfold element? at stale
  cases live : whole.2.elements.get? handle.id with
  | none =>
      rw [live] at stale
      cases stale
      rfl
  | some element =>
      rw [live] at stale
      cases stale

theorem scrollTo_never_misses {handle : Handle} {x y : Option Int} :
    ¬Misses (Page.browser.besideGrid.scrollTo handle x y) whole after := by
  obtain ⟨grid, page⟩ := whole
  rintro ⟨error, ended, notFound⟩
  cases live : page.elements.get? handle.id with
  | none =>
      have stale : (Page.browser.besideGrid.scrollTo handle x y).outcome (grid, page) = _ :=
        outcome_beside ((Page.browser.beside_alike grid).scrollTo handle x y) (outcome_scrollTo_stale live x y)
      rw [stale] at ended
      cases ended
      cases notFound
  | some element =>
      have scrolled : (Page.browser.besideGrid.scrollTo handle x y).outcome (grid, page) = _ :=
        outcome_beside ((Page.browser.beside_alike grid).scrollTo handle x y) (outcome_scrollTo live x y)
      rw [scrolled] at ended
      cases ended

theorem atStart_misses_iff : Misses (atStart Page.browser.besideGrid) whole after ↔
    Misses (rowScroller Page.browser.besideGrid) whole after ∨
      ∃ rows looked, Gives (rowScroller Page.browser.besideGrid) whole rows looked ∧
        Misses (columnScroller Page.browser.besideGrid) looked after := by
  unfold atStart
  rw [misses_bind_iff]
  refine or_congr_right (exists_congr fun rows => exists_congr fun looked => and_congr_right fun _ => ?_)
  rw [misses_bind_iff]
  apply or_iff_left
  rintro ⟨columns, sought, _, missed⟩
  rcases misses_bind_iff.mp missed with missed | ⟨_, up, _, missed⟩
  · exact scrollTo_never_misses missed
  rcases misses_bind_iff.mp missed with missed | ⟨_, left, _, missed⟩
  · exact scrollTo_never_misses missed
  · exact not_misses_pure missed

theorem findCells_misses_iff {columns : Scroller} {row : Path} {cells : List (String × Property)} :
    Misses (findCells Page.browser.besideGrid columns row cells) whole after ↔
      LacksCell columns row cells whole after := by
  induction cells generalizing whole with
  | nil =>
      constructor
      · exact fun missed => absurd missed not_misses_pure
      · rintro ⟨⟩
  | cons cell cells ih =>
      obtain ⟨title, property⟩ := cell
      rw [findCells, misses_known_iff]
      cases known : whole.1.columnId? title with
      | error error =>
          constructor
          · rintro ⟨_, ended, notFound⟩
            obtain ⟨_, rfl⟩ := columnId?_eq_error_iff.mp known
            cases ended
            cases notFound
          · intro missed
            cases missed with
            | here known' => cases known.symm.trans known'
            | later known' => cases known.symm.trans known'
      | ok id =>
          have named : (ofExcept (Except.ok id) : GridAction Page String) = pure id := rfl
          rw [named, pure_bind, misses_bind_iff]
          constructor
          · rintro (missed | ⟨found, scrolled, there, missed⟩)
            · exact .here known missed
            · rcases misses_bind_iff.mp missed with missed | ⟨_, back, returns, missed⟩
              · exact absurd missed scrollTo_never_misses
              · exact .later known there returns (ih.mp missed)
          · intro missed
            cases missed with
            | here known' missed =>
                cases known.symm.trans known'
                exact .inl missed
            | later known' there returns missed =>
                cases known.symm.trans known'
                exact .inr ⟨_, _, there, misses_bind_iff.mpr (.inr ⟨(), _, returns, ih.mpr missed⟩)⟩

theorem findRowFromStart_misses_iff {rows columns : Scroller} :
    Misses (findRowFromStart Page.browser.besideGrid rows columns index expected) whole after ↔
      ∃ row reached, Gives (rows.untilPresent Page.browser.besideGrid .down (whole.1.rowPath index)) whole row reached ∧
        (Misses (findCells Page.browser.besideGrid columns (whole.1.rowPath index) expected.cells) reached after ∨
          ∃ searched,
            Gives (findCells Page.browser.besideGrid columns (whole.1.rowPath index) expected.cells) reached ()
              searched ∧
            (Misses (contentBox Page.browser.besideGrid) searched after ∨
              ∃ box measured, Gives (contentBox Page.browser.besideGrid) searched box measured ∧
                Misses (rows.untilAccepted Page.browser.besideGrid .down (whole.1.rowPath index)
                  (rowVisible Page.browser.besideGrid box.bottom)) measured after)) := by
  have never (error : Error) (middle : Grid × Page) :
      ¬Misses (throw (rowMissing index error) : GridAction Page Unit) middle after := by
    rintro ⟨_, ended, notFound⟩
    cases ended
    unfold rowMissing at notFound
    split at notFound
    · cases notFound
    · contradiction
  unfold findRowFromStart
  rw [misses_known_iff, misses_attempt_bind_iff]
  simp only [never, not_misses_pure, and_false, exists_false, false_or, or_false, misses_bind_iff, Unique.exists_iff]

theorem findRow_atStart : findRow Page.browser.besideGrid index expected =
    atStart Page.browser.besideGrid >>= fun scrollers =>
      findRowFromStart Page.browser.besideGrid scrollers.1 scrollers.2 index expected := by
  rw [atStart_bind]
  rfl

theorem started_of_gives {scrollers : Scroller × Scroller}
    (start : Gives (atStart Page.browser.besideGrid) whole scrollers after) :
    whole.1.Started whole.2 scrollers after := by
  have starts := atStart_concludes whole.1 whole.2 whole rfl
  rwa [start] at starts

/-- A row is passed over just when one of its parts is missed. -/
theorem findRow_misses_iff : Misses (findRow Page.browser.besideGrid index expected) whole after ↔
    ∃ missed, PassedFor index expected whole missed after := by
  have places {scrollers : Scroller × Scroller} {started : Grid × Page}
      (start : Gives (atStart Page.browser.besideGrid) whole scrollers started) :
      started.1.rowPath index = whole.1.rowPath index := by
    rw [(started_of_gives start).located]
    rfl
  rw [findRow_atStart, misses_bind_iff]
  constructor
  · rintro (missed | ⟨scrollers, started, start, missed⟩)
    · rcases atStart_misses_iff.mp missed with missed | ⟨rows, looked, found, missed⟩
      · exact ⟨.viewport, .viewport (rowScroller_misses_iff.mp missed).1 missed⟩
      · obtain rfl := rowScroller_leaves found
        obtain ⟨sought, _, misses⟩ := columnScroller_misses whole.1
          (whole.2.record (.find whole.1.regions.viewport.toXPath))
        exact ⟨.columns, .columns found ((misses after).mp missed).1 missed⟩
    · obtain ⟨row, reached, present, missed⟩ := findRowFromStart_misses_iff.mp missed
      rw [places start] at present missed
      rcases missed with missed | ⟨searched, celled, missed | ⟨box, measured, measures, missed⟩⟩
      · exact ⟨.cell, .cell start present (findCells_misses_iff.mp missed)⟩
      · exact ⟨.content, .content start present celled (contentBox_misses_iff.mp missed).1 missed⟩
      · exact ⟨.visible, .visible start present celled measures missed⟩
  · rintro ⟨missed, passed⟩
    cases passed with
    | viewport _ missed => exact .inl (atStart_misses_iff.mpr (.inl missed))
    | columns found _ missed => exact .inl (atStart_misses_iff.mpr (.inr ⟨_, _, found, missed⟩))
    | cell start present missed =>
        refine .inr ⟨_, _, start, findRowFromStart_misses_iff.mpr ?_⟩
        rw [places start]
        exact ⟨_, _, present, .inl (findCells_misses_iff.mpr missed)⟩
    | content start present celled _ missed =>
        refine .inr ⟨_, _, start, findRowFromStart_misses_iff.mpr ?_⟩
        rw [places start]
        exact ⟨_, _, present, .inr ⟨_, celled, .inl missed⟩⟩
    | visible start present celled measures missed =>
        refine .inr ⟨_, _, start, findRowFromStart_misses_iff.mpr ?_⟩
        rw [places start]
        exact ⟨_, _, present, .inr ⟨_, celled, .inr ⟨_, _, measures, missed⟩⟩⟩

/-! ## All rows -/

theorem searchRows_found {count : Nat} (finds : Gives (findRow Page.browser.besideGrid index expected) whole () after) :
    (searchRows Page.browser.besideGrid expected (count + 1) index).outcome whole = (.ok (some index), after) := by
  have tried := outcome_attempt (findRow Page.browser.besideGrid index expected) whole
  rw [finds] at tried
  rw [searchRows, outcome_bind_of_ok tried]
  rfl

theorem searchRows_failed {count : Nat} {error : Error}
    (fails : (findRow Page.browser.besideGrid index expected).outcome whole = (.error error, after)) :
    (searchRows Page.browser.besideGrid expected (count + 1) index).outcome whole =
      if error.isNotFound then (searchRows Page.browser.besideGrid expected count (index + 1)).outcome after
      else (.error error, after) := by
  have tried := outcome_attempt (findRow Page.browser.besideGrid index expected) whole
  rw [fails] at tried
  rw [searchRows, outcome_bind_of_ok tried]
  cases notFound : error.isNotFound with
  | false => simp only [notFound, Bool.false_eq_true, if_false]; rfl
  | true => simp only [notFound, if_true]

theorem Probed.outcome_eq {count : Nat} {missed : List Missed} {ended : Except Error (Option Nat) × (Grid × Page)}
    (probed : Probed expected count index whole missed ended) :
    (searchRows Page.browser.besideGrid expected count index).outcome whole = ended := by
  induction probed with
  | exhausted => rfl
  | found finds => exact searchRows_found finds
  | failed fails other => rw [searchRows_failed fails, other, if_neg Bool.false_ne_true]
  | passed passes _ ih =>
      obtain ⟨error, misses, notFound⟩ := findRow_misses_iff.mpr ⟨_, passes⟩
      rw [searchRows_failed misses, notFound, if_pos rfl, ih]

/-- A search goes on after a row that has been passed over, and ends otherwise. -/
theorem exists_probed (expected : RowSpec) (count index : Nat) (whole : Grid × Page) :
    ∃ missed, Probed expected count index whole missed
      ((searchRows Page.browser.besideGrid expected count index).outcome whole) := by
  induction count generalizing index whole with
  | zero => exact ⟨[], .exhausted⟩
  | succ count ih =>
      cases tried : (findRow Page.browser.besideGrid index expected).outcome whole with
      | mk result next =>
          cases result with
          | ok _ => exact ⟨[], searchRows_found tried ▸ .found tried⟩
          | error error =>
              rw [searchRows_failed tried]
              cases notFound : error.isNotFound with
              | false => exact ⟨[], .failed tried notFound⟩
              | true =>
                  obtain ⟨others, rest⟩ := ih (index + 1) next
                  obtain ⟨missed, passes⟩ := findRow_misses_iff.mp ⟨error, tried, notFound⟩
                  exact ⟨missed :: others, .passed passes rest⟩

/-- The searches that end in one way are those that pass over rows on the way there. -/
theorem searchRows_probed_iff {count : Nat} {ended : Except Error (Option Nat) × (Grid × Page)} :
    (searchRows Page.browser.besideGrid expected count index).outcome whole = ended ↔
      ∃ missed, Probed expected count index whole missed ended := by
  constructor
  · rintro rfl
    exact exists_probed expected count index whole
  · rintro ⟨_, probed⟩
    exact probed.outcome_eq

theorem Probed.length {count : Nat} {missed : List Missed} {result : Except Error (Option Nat)}
    (probed : Probed expected count index whole missed (result, after)) :
    (∀ found, result = .ok (some found) → found = index + missed.length ∧ missed.length < count) ∧
      (result = .ok none → missed.length = count) := by
  generalize same : (result, after) = ended at probed
  induction probed with
  | exhausted =>
      cases same
      simp
  | found =>
      cases same
      simp
  | failed =>
      cases same
      simp
  | passed _ _ ih =>
      obtain ⟨found, none⟩ := ih same
      refine ⟨fun row ended => ?_, fun ended => ?_⟩
      · obtain ⟨rfl, below⟩ := found row ended
        simp only [List.length_cons]
        omega
      · rw [List.length_cons, none ended]

/-! ## What a search leaves as it is -/

/-- The grid, and the page but for being scrolled. -/
def Lasts (grid : Grid) (page : Page) (whole : Grid × Page) : Prop :=
  whole.1 = grid ∧ AgreeOff (fun _ => True) page whole.2

section Lasting

variable {Value : Type}

theorem beside_lasts {action : Action Page Value} {right : GridAction Page Value}
    (alike : ∀ now, Alike (fun page whole => whole = (now, page)) action right)
    (confined : Confined (AgreeOff (fun _ => True) page) action fun _ => True) :
    Confined (grid.Lasts page) right fun _ => True := by
  apply Concludes.beside alike
  intro now
  apply Concludes.given (now = grid) fun _ start => start.1
  intro same
  apply (confined.strengthen fun _ start => start.2).weaken
  · exact fun _ _ ended => ⟨trivial, same, ended.2⟩
  · exact fun _ _ ended => ⟨trivial, same, ended.2⟩

theorem untilPresent_lasts (scroller : Scroller) (direction : Direction) (path : Path) :
    Confined (grid.Lasts page) (scroller.untilPresent Page.browser.besideGrid direction path) fun _ => True :=
  beside_lasts (fun now => Scroller.untilPresent_alike (Page.browser.beside_alike now) scroller direction path)
    (untilPresent_scrolls trivial direction path)

theorem toLeftEdge_lasts (scroller : Scroller) :
    Confined (grid.Lasts page) (scroller.toLeftEdge Page.browser.besideGrid) fun _ => True := by
  refine beside_lasts (fun now => (Page.browser.beside_alike now).scrollTo scroller.container _ _) ?_
  dsimp only [Page.browser]
  exact scroll_keeps trivial

theorem findCells_lasts (columns : Scroller) (row : Path) (cells : List (String × Property)) :
    Confined (grid.Lasts page) (findCells Page.browser.besideGrid columns row cells) fun _ => True := by
  induction cells with
  | nil => exact .pure ()
  | cons cell cells ih =>
      apply known_confined.bind
      intro now
      apply Confined.bind
      · exact Keeps.ofExcept (fun _ _ => trivial) fun _ _ => trivial
      intro id
      apply (untilPresent_lasts columns .right _).bind
      intro _
      exact (toLeftEdge_lasts columns).bind fun _ => ih

theorem contentBox_lasts : Confined (grid.Lasts page) (contentBox Page.browser.besideGrid) fun _ => True := by
  rintro ⟨now, current⟩ ⟨same, agree⟩
  rw [outcome_contentBox]
  cases now.contentRect current with
  | ok box => exact ⟨trivial, same, agree.recorded⟩
  | error error => exact ⟨trivial, same, agree.recorded⟩

theorem untilVisible_lasts (scroller : Scroller) (path : Path) (bottom : Int) :
    Confined (grid.Lasts page)
      (scroller.untilAccepted Page.browser.besideGrid .down path (rowVisible Page.browser.besideGrid bottom))
      fun _ => True := by
  refine beside_lasts (fun now => untilVisible_beside now scroller .down path bottom) ?_
  apply (untilAccepted_seeks trivial .down path bottom).weaken
  · exact fun _ _ ended => ⟨trivial, ended.1⟩
  · exact fun _ _ ended => ⟨trivial, ended⟩

end Lasting

theorem lasts_of_gives {Value : Type} {action : GridAction Page Value} {start : Grid × Page} {value : Value}
    (confined : Confined (grid.Lasts page) action fun _ => True) (gives : Gives action start value after)
    (lasts : grid.Lasts page start) : grid.Lasts page after := by
  have kept := confined.keeps lasts
  rwa [gives] at kept

theorem lasts_of_misses {Value : Type} {action : GridAction Page Value} {start : Grid × Page}
    (confined : Confined (grid.Lasts page) action fun _ => True) (misses : Misses action start after)
    (lasts : grid.Lasts page start) : grid.Lasts page after := by
  obtain ⟨error, ended, _⟩ := misses
  have kept := confined.keeps lasts
  rwa [ended] at kept

theorem atStart_lasts {scrollers : Scroller × Scroller}
    (start : Gives (atStart Page.browser.besideGrid) whole scrollers after) :
    (whole.1.located whole.2).Lasts whole.2 after :=
  ⟨(started_of_gives start).located, (started_of_gives start).atStart.content.mono fun _ _ => trivial⟩

/-- Passing over a row may have found where the columns are scrolled, and may have scrolled the page. -/
theorem PassedFor.lasts {missed : Missed} (passed : PassedFor index expected whole missed after) :
    whole.1.Lasts whole.2 after ∨ (whole.1.located whole.2).Lasts whole.2 after := by
  cases passed with
  | viewport _ missed =>
      obtain ⟨_, rfl⟩ := rowScroller_misses_iff.mp missed
      exact .inl ⟨rfl, (AgreeOff.refl _).recorded⟩
  | columns found _ missed =>
      obtain rfl := rowScroller_leaves found
      obtain ⟨sought, same, misses⟩ := columnScroller_misses whole.1
        (whole.2.record (.find whole.1.regions.viewport.toXPath))
      obtain ⟨_, rfl⟩ := (misses after).mp missed
      exact .inr ⟨rfl, (AgreeOff.refl _).recorded.trans (same.mono fun _ => False.elim)⟩
  | cell start present missed =>
      have reached := lasts_of_gives (untilPresent_lasts _ _ _) present (atStart_lasts start)
      exact .inr (lasts_of_misses (findCells_lasts _ _ _) (findCells_misses_iff.mpr missed) reached)
  | content start present celled _ missed =>
      have reached := lasts_of_gives (untilPresent_lasts _ _ _) present (atStart_lasts start)
      have searched := lasts_of_gives (findCells_lasts _ _ _) celled reached
      exact .inr (lasts_of_misses contentBox_lasts missed searched)
  | visible start present celled measures missed =>
      have reached := lasts_of_gives (untilPresent_lasts _ _ _) present (atStart_lasts start)
      have searched := lasts_of_gives (findCells_lasts _ _ _) celled reached
      have measured := lasts_of_gives contentBox_lasts measures searched
      exact .inr (lasts_of_misses (untilVisible_lasts _ _ _) missed measured)

/-! ## Places that stay -/

/-- The place is there wherever the page is scrolled. -/
def Stays (page : Page) (path : Path) : Prop :=
  page.Settled (fun _ => True) path ∧ page.first? path ≠ none

/-- The places of the grid are there wherever the page is scrolled, and so is a viewport of the columns or none. -/
structure PlacesStay (grid : Grid) (page : Page) : Prop where
  center : page.Settled (fun _ => True) grid.regions.centerViewport
  viewport : Stays page grid.regions.viewport
  columns : Stays page (grid.columnPlace page)
  content : Stays page grid.regions.content

/-- The grid, wherever its columns are scrolled, and the page but for being scrolled. -/
def Standing (grid : Grid) (page : Page) (whole : Grid × Page) : Prop :=
  grid.Lasts page whole ∨ (grid.located page).Lasts page whole

theorem Lasts.trans {now : Grid} {middle : Grid × Page} (agree : AgreeOff (fun _ => True) page middle.2)
    (lasts : now.Lasts middle.2 after) : now.Lasts page after :=
  ⟨lasts.1, agree.trans lasts.2⟩

namespace Standing

variable (standing : grid.Standing page whole)

include standing

theorem agree : AgreeOff (fun _ => True) page whole.2 :=
  standing.elim (·.2) (·.2)

theorem regions : whole.1.regions = grid.regions := by
  rcases standing with lasts | lasts
  · rw [lasts.1]
  · rw [lasts.1]
    rfl

theorem first?_eq {path : Path} (settled : page.Settled (fun _ => True) path) :
    whole.2.first? path = page.first? path := by
  unfold first?
  rw [standing.agree.resolve_eq settled]

theorem columnPlace_eq (center : page.Settled (fun _ => True) grid.regions.centerViewport) :
    whole.1.columnPlace whole.2 = grid.columnPlace page := by
  have there := standing.first?_eq center
  rcases standing with lasts | lasts
  · rw [lasts.1]
    unfold columnPlace
    rw [there]
  · rw [lasts.1]
    rfl

theorem located_eq (center : page.Settled (fun _ => True) grid.regions.centerViewport) :
    whole.1.located whole.2 = grid.located page := by
  rw [located, standing.columnPlace_eq center]
  rcases standing with lasts | lasts
  · rw [lasts.1]
    rfl
  · rw [lasts.1]
    rfl

theorem of_passed (center : page.Settled (fun _ => True) grid.regions.centerViewport) {missed : Missed}
    (passed : PassedFor index expected whole missed after) : grid.Standing page after := by
  rcases passed.lasts with lasts | lasts
  · rcases standing with before | before
    · exact .inl (before.1 ▸ lasts.trans before.2)
    · exact .inr (before.1 ▸ lasts.trans before.2)
  · rw [standing.located_eq center] at lasts
    exact .inr (lasts.trans standing.agree)

/-- Where the places stay, a row is passed over only once it has been found, for one of its cells or because it does
not become visible. -/
theorem missed_eq (stay : grid.PlacesStay page) {missed : Missed}
    (passed : PassedFor index expected whole missed after) :
    missed = .cell ∨ missed = .visible := by
  cases passed with
  | viewport missing =>
      rw [rowContainerOn, standing.regions, standing.first?_eq stay.viewport.1] at missing
      exact absurd missing stay.viewport.2
  | columns _ missing =>
      rw [columnContainerOn, standing.columnPlace_eq stay.center, standing.first?_eq stay.columns.1] at missing
      exact absurd missing stay.columns.2
  | cell => exact .inl rfl
  | content start present celled missing =>
      have reached := lasts_of_gives (untilPresent_lasts _ _ _) present (atStart_lasts start)
      have searched := lasts_of_gives (findCells_lasts _ _ _) celled reached
      rw [standing.located_eq stay.center] at searched
      have standing : grid.Standing page _ := .inr (searched.trans standing.agree)
      rw [standing.regions, standing.first?_eq stay.content.1] at missing
      exact absurd missing stay.content.2
  | visible => exact .inr rfl

end Standing

theorem Probed.missed_eq (stay : grid.PlacesStay page) {count : Nat} {missed : List Missed}
    {ended : Except Error (Option Nat) × (Grid × Page)} (probed : Probed expected count index whole missed ended)
    (standing : grid.Standing page whole) : ∀ each ∈ missed, each = .cell ∨ each = .visible := by
  induction probed with
  | exhausted => simp
  | found => simp
  | failed => simp
  | passed passes _ ih =>
      exact List.forall_mem_cons.mpr ⟨standing.missed_eq stay passes, ih (standing.of_passed stay.center passes)⟩

/-! ## Places that are missing -/

section Missing

variable {count : Nat} {missed : List Missed} {ended : Except Error (Option Nat) × (Grid × Page)}
  (probed : Probed expected count index whole missed ended)

include probed

/-- Where every row is passed over for the same, all rows are. -/
theorem Probed.all_passed (kept : Grid × Page → Prop) {kind : Missed}
    (misses : ∀ index whole, kept whole → ∃ after, Misses (findRow Page.browser.besideGrid index expected) whole after)
    (passes : ∀ index whole missed after, kept whole → PassedFor index expected whole missed after →
      missed = kind ∧ kept after)
    (start : kept whole) : missed = List.replicate count kind ∧ ended.1 = .ok none := by
  induction probed with
  | exhausted => exact ⟨rfl, rfl⟩
  | found finds =>
      obtain ⟨_, missed⟩ := misses _ _ start
      exact absurd missed (Gives.not_misses finds)
  | failed fails other =>
      obtain ⟨_, _, missed, notFound⟩ := misses _ _ start
      cases fails.symm.trans missed
      cases other.symm.trans notFound
  | passed passed _ ih =>
      obtain ⟨rfl, start⟩ := passes _ _ _ _ start passed
      obtain ⟨rfl, none⟩ := ih start
      exact ⟨rfl, none⟩

theorem Probed.without_viewport (missing : whole.1.rowContainerOn whole.2 = none) :
    missed = List.replicate count .viewport ∧ ended.1 = .ok none := by
  refine probed.all_passed (fun whole => whole.1.rowContainerOn whole.2 = none) ?_ ?_ missing
  · intro index whole missing
    exact ⟨_, findRow_misses_iff.mpr ⟨_, .viewport missing (rowScroller_misses_iff.mpr ⟨missing, rfl⟩)⟩⟩
  · intro index whole missed after missing passed
    cases passed with
    | viewport _ missed =>
        obtain ⟨_, rfl⟩ := rowScroller_misses_iff.mp missed
        exact ⟨rfl, missing⟩
    | columns found => exact absurd (rowScroller_misses_iff.mpr ⟨missing, rfl⟩) (Gives.not_misses found)
    | cell start => cases missing.symm.trans (started_of_gives start).rows
    | content start => cases missing.symm.trans (started_of_gives start).rows
    | visible start => cases missing.symm.trans (started_of_gives start).rows

theorem Probed.without_columns
    (missing : whole.1.rowContainerOn whole.2 ≠ none ∧ whole.1.columnContainerOn whole.2 = none) :
    missed = List.replicate count .columns ∧ ended.1 = .ok none := by
  refine probed.all_passed (fun whole => whole.1.rowContainerOn whole.2 ≠ none ∧
    whole.1.columnContainerOn whole.2 = none) ?_ ?_ missing
  · rintro index ⟨grid, page⟩ ⟨there, missing⟩
    obtain ⟨rows, first⟩ := Option.ne_none_iff_exists'.mp there
    have found := outcome_rowScroller grid page
    rw [found_eq_ok_iff.mpr first] at found
    obtain ⟨sought, _, misses⟩ := columnScroller_misses grid (page.record (.find grid.regions.viewport.toXPath))
    exact ⟨_, findRow_misses_iff.mpr ⟨_, .columns found missing ((misses _).mpr ⟨missing, rfl⟩)⟩⟩
  · rintro index ⟨grid, page⟩ missed after ⟨there, missing⟩ passed
    cases passed with
    | viewport missing => exact absurd missing there
    | columns found _ missed =>
        obtain rfl := rowScroller_leaves found
        obtain ⟨sought, same, misses⟩ := columnScroller_misses grid (page.record (.find grid.regions.viewport.toXPath))
        obtain ⟨_, rfl⟩ := (misses after).mp missed
        have same : Same page sought := (AgreeOff.refl page).recorded.trans same
        refine ⟨rfl, ?_, ?_⟩
        · show sought.first? grid.regions.viewport ≠ none
          rw [first?, same.resolve_same]
          exact there
        · show sought.first? (grid.columnPlace page) = none
          rw [first?, same.resolve_same]
          exact missing
    | cell start => cases missing.symm.trans (started_of_gives start).columns
    | content start => cases missing.symm.trans (started_of_gives start).columns
    | visible start => cases missing.symm.trans (started_of_gives start).columns

end Missing

/-- Without the content of the grid no row is found. -/
theorem findRow_needs_content (missing : ∀ searched : Page, AgreeOff (fun _ => True) whole.2 searched →
    searched.first? whole.1.regions.content = none) :
    ¬Gives (findRow Page.browser.besideGrid index expected) whole () after := by
  rw [findRow_atStart, gives_bind_iff]
  rintro ⟨scrollers, started, start, found⟩
  have lasts := atStart_lasts start
  obtain ⟨now, _, known, found⟩ := gives_bind_iff.mp found
  cases known
  obtain ⟨result, reached, tried, found⟩ := gives_bind_iff.mp found
  have lasts := lasts_of_gives (untilPresent_lasts _ _ _).attempt tried (atStart_lasts start)
  cases result with
  | error error => cases found
  | ok row =>
      obtain ⟨_, searched, celled, found⟩ := gives_bind_iff.mp found
      have lasts := lasts_of_gives (findCells_lasts _ _ _) celled lasts
      obtain ⟨box, measured, measures, _⟩ := gives_bind_iff.mp found
      have nothing : searched.2.first? searched.1.regions.content = none := by
        rw [lasts.1]
        exact missing searched.2 lasts.2
      exact Gives.not_misses measures (contentBox_misses_iff.mpr ⟨nothing, rfl⟩)

theorem Probed.without_content {count : Nat} {missed : List Missed}
    {ended : Except Error (Option Nat) × (Grid × Page)} (probed : Probed expected count index whole missed ended)
    (settled : page.Settled (fun _ => True) grid.regions.content) (missing : page.first? grid.regions.content = none)
    (regions : whole.1.regions = grid.regions) (agree : AgreeOff (fun _ => True) page whole.2) (found : Nat) :
    ended.1 ≠ .ok (some found) := by
  induction probed with
  | exhausted => simp
  | found finds =>
      refine absurd finds (findRow_needs_content fun searched later => ?_)
      rw [regions, first?, (agree.trans later).resolve_eq settled]
      exact missing
  | failed => simp
  | passed passed _ ih =>
      rcases passed.lasts with lasts | lasts
      · exact ih (lasts.1 ▸ regions) (agree.trans lasts.2)
      · exact ih (lasts.1 ▸ regions) (agree.trans lasts.2)

theorem outcome_searchRow (known : grid.columnIds.entries.isEmpty = false) (limit : Nat) :
    (searchRow Page.browser.besideGrid expected limit).outcome (grid, page) =
      let searched := (searchRows Page.browser.besideGrid expected limit 0).outcome (grid, page)
      (searched.1 >>= fun found => match found with
        | some index => .ok index
        | none => .error ⟨.notFound, "no row within the first " ++ toString limit ++ " matches"⟩, searched.2) := by
  have ensured : (ensureColumns Page.browser.besideGrid).outcome (grid, page) = (.ok (), grid, page) := by
    unfold ensureColumns
    rw [outcome_bind_of_ok (outcome_known _)]
    simp only [known, Bool.false_eq_true, if_false]
    rfl
  unfold searchRow
  rw [outcome_bind_of_ok ensured]
  cases searched : (searchRows Page.browser.besideGrid expected limit 0).outcome (grid, page) with
  | mk result reached =>
      cases result with
      | error error => exact outcome_bind_of_error searched
      | ok found =>
          rw [outcome_bind_of_ok searched]
          cases found with
          | none => rfl
          | some index => rfl

/-! ## Main result -/

/-- The search for a row in a virtualized grid whose columns are known goes through the indices from the first one on.
It passes over a row whenever the viewport, the container of the columns, a cell, the content or a visible match of the
row is not found, and ends at any other error and at a row of which nothing is missed. So the rows before the one that
is found have been passed over; where the places of the grid stay they have been found themselves, but for a cell or a
visible match; and where the viewport or the container of the columns is missing, every row is passed over. -/
theorem findRowIndex_passes_over (grid : Grid) (virtualized : grid.virtualized = true)
    (known : grid.columnIds.entries.isEmpty = false) (page : Page) (expected : RowSpec) :
    let limit := grid.settings.rowSearchLimit
    let low := page.timed grid.settings.timeouts.during
    ∃ (missed : List Missed) (result : Except Error (Option Nat)) (learnt : Grid) (reached : Page),
      Probed expected limit 0 (grid, low) missed (result, learnt, reached) ∧
      (Page.browser.findRowIndex expected).outcome (grid, page) =
        (result >>= fun found => match found with
          | some index => .ok index
          | none => .error ⟨.notFound, "no row within the first " ++ toString limit ++ " matches"⟩,
          learnt, reached.timed grid.settings.timeouts.after) ∧
      (∀ index, result = .ok (some index) → missed.length = index) ∧
      (result = .ok none → missed.length = limit) ∧
      (grid.PlacesStay page → ∀ each ∈ missed, each = .cell ∨ each = .visible) ∧
      (grid.rowContainerOn page = none → missed = List.replicate limit .viewport ∧ result = .ok none) ∧
      (grid.rowContainerOn page ≠ none → grid.columnContainerOn page = none →
        missed = List.replicate limit .columns ∧ result = .ok none) ∧
      (page.Settled (fun _ => True) grid.regions.content → page.first? grid.regions.content = none →
        ∀ index, result ≠ .ok (some index)) := by
  intro limit low
  have ran : (Page.browser.findRowIndex expected).outcome (grid, page) =
      (underTimeouts Page.browser.besideGrid (searchRow Page.browser.besideGrid expected limit)).outcome
        (grid, page) := by
    unfold Browser.findRowIndex
    rw [outcome_bind_of_ok (outcome_known _)]
    simp only [virtualized, if_true]
    rfl
  rw [outcome_underTimeouts, outcome_searchRow known] at ran
  have same : Same page low := (AgreeOff.refl page).timed _
  cases searched : (searchRows Page.browser.besideGrid expected limit 0).outcome (grid, low) with
  | mk result reached =>
      rw [searched] at ran
      obtain ⟨missed, probed⟩ := searchRows_probed_iff.mp searched
      refine ⟨missed, result, reached.1, reached.2, probed, ran, ?_, probed.length.2, ?_, ?_, ?_, ?_⟩
      · intro index found
        have place := (probed.length.1 index found).1
        omega
      · exact fun stay => probed.missed_eq stay (.inl ⟨rfl, same.mono fun _ => False.elim⟩)
      · exact fun missing => probed.without_viewport missing
      · exact fun there missing => probed.without_columns ⟨there, missing⟩
      · exact fun settled missing => probed.without_content settled missing rfl (same.mono fun _ => False.elim)

/-- The grid of one column, whose id is known. -/
def knownLedger : Grid :=
  { ledgerGrid with columnIds := .ofList [("A", "a")] }

theorem ledgerPage_stays : knownLedger.PlacesStay ledgerPage := by
  have windowless : ∀ path ∈ [knownLedger.regions.centerViewport, knownLedger.regions.viewport,
      knownLedger.columnPlace ledgerPage, knownLedger.regions.content], ∀ window ∈ ledgerPage.windows path, False := by
    decide +kernel
  constructor
  · exact fun window mem _ => windowless _ (by simp) window mem
  · exact ⟨fun window mem _ => windowless _ (by simp) window mem, by decide +kernel⟩
  · exact ⟨fun window mem _ => windowless _ (by simp) window mem, by decide +kernel⟩
  · exact ⟨fun window mem _ => windowless _ (by simp) window mem, by decide +kernel⟩

theorem findRowIndex_passes_over_ledger :
    ((Page.browser.findRowIndex (.ofTexts [("A", "2")])).outcome (knownLedger, ledgerPage)).1 = .ok 1 ∧
      ∃ missed learnt reached, Probed (.ofTexts [("A", "2")]) 10000000 0 (knownLedger, ledgerPage.timed 5) missed
        (.ok (some 1), learnt, reached) ∧ missed.length = 1 ∧ ∀ each ∈ missed, each = .cell ∨ each = .visible := by
  have found : ((Page.browser.findRowIndex (.ofTexts [("A", "2")])).outcome (knownLedger, ledgerPage)).1 = .ok 1 := by
    decide +kernel
  obtain ⟨missed, result, learnt, reached, probed, ran, length, _, stays, _⟩ :=
    findRowIndex_passes_over knownLedger rfl (by decide) ledgerPage (.ofTexts [("A", "2")])
  refine ⟨found, ?_⟩
  rw [ran] at found
  cases result with
  | error error => cases found
  | ok index =>
      cases index with
      | none => cases found
      | some index =>
          cases found
          exact ⟨missed, learnt, reached, probed, length 1 rfl, stays ledgerPage_stays⟩

/-- A page of two rows with the same cell, the first of which is not displayed. -/
def veiledPage : Page :=
  let content : Handle := ⟨"content"⟩
  let framed := Page.add {} content { rect := ⟨0, 30, 400, 200⟩, extent := ⟨0, 300⟩ }
  let filled := ((framed.add ⟨"first"⟩ { displayed := false }).add ⟨"second"⟩ {}).add ⟨"cell"⟩ {}
  let placed := (filled.register knownLedger.regions.content ⟨[content], none⟩).register
    knownLedger.regions.viewport ⟨[content], none⟩
  let lined := (placed.register (knownLedger.rowPath 0) ⟨[⟨"first"⟩], none⟩).register
    (knownLedger.rowPath 1) ⟨[⟨"second"⟩], none⟩
  (lined.register ((cellPath (knownLedger.rowPath 0) "a").and (.hasAggregatedText "2")) ⟨[⟨"cell"⟩], none⟩).register
    ((cellPath (knownLedger.rowPath 1) "a").and (.hasAggregatedText "2")) ⟨[⟨"cell"⟩], none⟩

/-- A row with all its cells is passed over when it does not become visible. -/
theorem findRowIndex_passes_over_fitting :
    let expected := RowSpec.ofTexts [("A", "2")]
    veiledPage.Reachable ∧ knownLedger.virtualized = true ∧ knownLedger.columnIds = .ofList [("A", "a")] ∧
      veiledPage.first? (knownLedger.rowPath 0) = some ⟨"first"⟩ ∧
      veiledPage.first? ((cellPath (knownLedger.rowPath 0) "a").and (.hasAggregatedText "2")) = some ⟨"cell"⟩ ∧
      ((findRow Page.browser.besideGrid 0 expected).outcome (knownLedger, veiledPage)).1 =
        .error (Scroller.exhausted (knownLedger.rowPath 0) .down 4) ∧
      ((Page.browser.findRowIndex expected).outcome (knownLedger, veiledPage)).1 = .ok 1 := by
  intro expected
  refine ⟨?_, rfl, rfl, ?_⟩
  · iterate 6 refine .change ?_ (.registerXPath _ _)
    iterate 4 refine .change ?_ (.add _ _ (by decide +kernel))
    exact .blank
  · decide +kernel

end Grid

end Locator
