import Locator.Proofs.Grid.Alike
import Locator.Proofs.Page.Agreement
import Locator.Proofs.Page.Reachable
import Mathlib.Control.Monad.Basic

/-!
# Where a page was left

A grid is explored from where its page happens to be scrolled. The columns are scrolled to their start after
each header that is found, and both containers before each row is looked for. The search for the first header
and the search for a row too many start where the page was left.
-/

namespace Locator

open Locator.Action Locator.Page

set_option autoImplicit false

namespace Grid

/-- The path by which columns are scrolled. -/
def columnPlace (grid : Grid) (page : Page) : Path :=
  grid.columnViewport.getD
    (if (page.first? grid.regions.centerViewport).isSome then grid.regions.centerViewport
      else grid.regions.viewport)

/-- The grid once that path has been found. -/
def located (grid : Grid) (page : Page) : Grid :=
  { grid with columnViewport := some (grid.columnPlace page) }

/-- The container that scrolls columns. -/
def columnContainerOn (grid : Grid) (page : Page) : Option Handle :=
  page.first? (grid.columnPlace page)

/-- The container that scrolls rows. -/
def rowContainerOn (grid : Grid) (page : Page) : Option Handle :=
  page.first? grid.regions.viewport

/-- The containers of the grid. -/
def Scrolled (grid : Grid) (page : Page) (handle : Handle) : Prop :=
  grid.columnContainerOn page = some handle ∨ grid.rowContainerOn page = some handle

/-- The container that scrolls rows, where columns are scrolled by another one. -/
def ScrolledBelow (grid : Grid) (page : Page) (handle : Handle) : Prop :=
  grid.rowContainerOn page = some handle ∧ grid.columnContainerOn page ≠ some handle

/-- What the places of the grid find does not hinge on how it is scrolled, and its headers do not come and go
with its rows. -/
structure SettledOn (grid : Grid) (page : Page) : Prop where
  header : page.Settled (grid.Scrolled page) (headerCell.inside grid.regions.headers)
  center : page.Settled (grid.Scrolled page) grid.regions.centerViewport
  viewport : page.Settled (grid.Scrolled page) grid.regions.viewport
  columns : page.Settled (grid.Scrolled page) (grid.columnPlace page)
  titles : ∀ title ∈ grid.titles, page.Settled (grid.ScrolledBelow page) (grid.headerPath title)

/-- How an operation on the grid ends, errors told apart by their causes. -/
def ending {Value : Type} (grid : Grid) (operation : GridAction Page Value) (page : Page) :
    Except Cause Value :=
  (operation.outcome (grid, page)).1.mapError Error.cause

/-- How the search for a header ends that starts where the page is scrolled. -/
def headerSearch (grid : Grid) (page : Page) (columns : Handle) (title : String) : Except Cause Handle :=
  let search := (Scroller.mk columns grid.settings.scroll).untilPresent Page.browser .right (grid.headerPath title)
  (search.outcome page).1.mapError Error.cause

/-- The search for the first header ends akin from where the pages are scrolled. -/
def FirstHeaderAkin (grid : Grid) (page page' : Page) : Prop :=
  ∀ title columns, grid.titles.head? = some title → grid.columnContainerOn page = some columns →
    grid.headerSearch page columns title = grid.headerSearch page' columns title

/-- The containers that the search for columns does not scroll back. -/
def LeftAlone (grid : Grid) (page : Page) (handle : Handle) : Prop :=
  grid.Scrolled page handle ∧ (grid.titles = [] ∨ grid.columnContainerOn page ≠ some handle)

/-- What rows are looked for from without being scrolled back stands alike. -/
structure RowsFromAlike (grid : Grid) (page page' : Page) : Prop where
  /-- Before each row the columns are scrolled to the left, and up only if they are scrolled with the rows. -/
  level : grid.titles = [] → grid.rows ≠ [] → ∀ handle, grid.columnContainerOn page = some handle →
    grid.rowContainerOn page ≠ some handle → (page'.offset handle).y = (page.offset handle).y
  /-- Before a row too many is looked for nothing is scrolled, so that without rows nothing has been. -/
  last : grid.rows = [] → grid.strict = true → ∀ handle, grid.LeftAlone page handle →
    page'.offset handle = page.offset handle

variable {grid : Grid} {page page' : Page}

/-! ## Two runs on one grid -/

/-- The same is known of the grid, but for the ids of its columns it is this one, and the pages are related. -/
def Facing (grid : Grid) (related : Page → Page → Prop) (whole whole' : Grid × Page) : Prop :=
  ∃ columnIds, whole.1 = { grid with columnIds } ∧ whole'.1 = { grid with columnIds } ∧
    related whole.2 whole'.2

variable {Value : Type} {before : Page → Page → Prop}

theorem known_agree {next next' : Grid → GridAction Page Value} {last : Value → Grid × Page → Grid × Page → Prop}
    (later : ∀ columnIds, Agree (grid.Facing before) (next { grid with columnIds })
      (next' { grid with columnIds }) last) :
    Agree (grid.Facing before) (known >>= next) (known >>= next') last := by
  rintro ⟨now, state⟩ ⟨now', state'⟩ ⟨columnIds, rfl, rfl, related⟩
  exact later columnIds _ _ ⟨columnIds, rfl, rfl, related⟩

theorem learn_agree {grid' : Grid} {change : Grid → Grid}
    (changes : ∀ columnIds, ∃ columnIds', change { grid with columnIds } = { grid' with columnIds := columnIds' }) :
    Agree (grid.Facing before) (learn change) (learn change) fun _ => grid'.Facing before := by
  rintro ⟨now, state⟩ ⟨now', state'⟩ ⟨columnIds, rfl, rfl, related⟩
  obtain ⟨columnIds', changed⟩ := changes columnIds
  exact .ok () ⟨columnIds', changed, changed, related⟩

/-- Actions on pages that agree do so beside the grid. -/
theorem facing_agree {action : Action Page Value} {whole : GridAction Page Value} {good : Value → Prop}
    {after : Value → Page → Page → Prop}
    (alike : ∀ now, Alike (fun page beside => beside = (now, page)) action whole)
    (agree : Agree before action action fun value page page' => good value ∧ after value page page') :
    Agree (grid.Facing before) whole whole
      fun value whole whole' => good value ∧ grid.Facing (after value) whole whole' := by
  rintro ⟨now, state⟩ ⟨now', state'⟩ ⟨columnIds, rfl, rfl, related⟩
  have akin := agree state state' related
  have beside (state : Page) : whole.outcome ({ grid with columnIds }, state) =
      ((action.outcome state).1, { grid with columnIds }, (action.outcome state).2) := by
    obtain ⟨ending, final⟩ := alike { grid with columnIds } state _ rfl
    exact Prod.ext ending.symm final
  rw [beside, beside]
  generalize action.outcome state = outcome at akin ⊢
  generalize action.outcome state' = outcome' at akin ⊢
  cases akin with
  | ok value holds => exact .ok value ⟨holds.1, columnIds, rfl, rfl, holds.2⟩
  | error same => exact .error same

theorem facing_agree_unit {action : Action Page Value} {whole : GridAction Page Value}
    {after : Page → Page → Prop}
    (alike : ∀ now, Alike (fun page beside => beside = (now, page)) action whole)
    (agree : Agree before action action fun _ => after) :
    Agree (grid.Facing before) whole whole fun _ => grid.Facing after := by
  have both : Agree (grid.Facing before) whole whole _ :=
    facing_agree alike (agree.weaken fun _ _ _ holds => And.intro trivial holds)
  exact both.weaken fun _ _ _ holds => holds.2

/-! ## Scrollers -/

section Lookups

variable (lookups : page.Lookups (grid.Scrolled page) before) (settled : grid.SettledOn page)

include lookups settled

omit settled in
theorem scrollerOf_agree {now : Grid} {path : Path} (unhinged : page.Settled (grid.Scrolled page) path) :
    Agree (now.Facing before) (Scroller.ofTarget Page.browser.besideGrid (.path path))
      (Scroller.ofTarget Page.browser.besideGrid (.path path))
      fun scroller whole whole' => page.first? path = some scroller.container ∧
        now.Facing before whole whole' := by
  have found : Agree (now.Facing before) _ _ _ :=
    facing_agree (fun now => (Page.browser.beside_alike now).find path) (lookups.find_agree unhinged)
  apply found.bind_good
  intro container first
  exact .pure fun whole whole' facing => ⟨first, facing⟩

theorem rowScroller_agree :
    Agree (grid.Facing before) (rowScroller Page.browser.besideGrid) (rowScroller Page.browser.besideGrid)
      fun scroller whole whole' => (grid.rowContainerOn page = some scroller.container ∧
        scroller.settings = grid.settings.scroll) ∧ grid.Facing before whole whole' := by
  apply known_agree
  intro columnIds
  apply (scrollerOf_agree lookups settled.viewport).bind_good
  intro scroller first
  exact .pure fun whole whole' facing => ⟨⟨first, rfl⟩, facing⟩

theorem columnContainer_agree :
    Agree (grid.Facing before) (columnContainer Page.browser.besideGrid)
      (columnContainer Page.browser.besideGrid)
      fun path whole whole' => path = grid.columnPlace page ∧
        (grid.located page).Facing before whole whole' := by
  apply known_agree
  intro columnIds
  cases viewport : grid.columnViewport with
  | some path =>
      have same : grid.columnPlace page = path := by rw [columnPlace, viewport, Option.getD_some]
      apply Agree.pure
      rintro whole whole' ⟨ids, known, known', related⟩
      refine ⟨same.symm, ids, ?_, ?_, related⟩
      · rw [known, located, same, ← viewport]
      · rw [known', located, same, ← viewport]
  | none =>
      have looked : Agree (grid.Facing before) _ _ _ :=
        facing_agree (fun now => (Page.browser.beside_alike now).isPresent grid.regions.centerViewport)
          (lookups.isPresent_agree settled.center)
      apply looked.bind_good
      intro present there
      have chosen : (if present then grid.regions.centerViewport else grid.regions.viewport) =
          grid.columnPlace page := by
        rw [columnPlace, viewport, Option.getD_none, there]
      simp only [chosen]
      have learns : Agree (grid.Facing before)
          (learn fun grid' => { grid' with columnViewport := some (grid.columnPlace page) })
          (learn fun grid' => { grid' with columnViewport := some (grid.columnPlace page) })
          fun _ => (grid.located page).Facing before :=
        learn_agree fun columnIds => ⟨columnIds, rfl⟩
      apply learns.bind
      intro _
      exact .pure fun whole whole' facing => ⟨rfl, facing⟩

theorem columnScroller_agree :
    Agree (grid.Facing before) (columnScroller Page.browser.besideGrid)
      (columnScroller Page.browser.besideGrid)
      fun scroller whole whole' => (grid.columnContainerOn page = some scroller.container ∧
        scroller.settings = grid.settings.scroll) ∧
          (grid.located page).Facing before whole whole' := by
  apply (columnContainer_agree lookups settled).bind_good
  rintro path rfl
  apply (scrollerOf_agree lookups settled.columns).bind_good
  intro scroller first
  apply known_agree
  intro columnIds
  exact .pure fun whole whole' facing => ⟨⟨first, rfl⟩, facing⟩

end Lookups

/-! ## Where the runs are -/

/-- Both runs are where their pages were left. -/
def AsLeft (page page' current current' : Page) : Prop :=
  Same page current ∧ Same page' current'

/-- Only what is in scope has been scrolled since the pages were left, and what is not loose is scrolled
alike. -/
structure Underway (page page' : Page) (scope loose : Handle → Prop) (current current' : Page) : Prop where
  left : AgreeOff scope page current
  right : AgreeOff scope page' current'
  between : AgreeOff loose current current'

variable {scope loose loose' any : Handle → Prop}

theorem asLeft_lookups (agree : AgreeOff any page page') : page.Lookups any (AsLeft page page') := by
  constructor
  · exact fun _ _ left => left.1.mono fun _ => False.elim
  · exact fun _ _ left => agree.trans (left.2.mono fun _ => False.elim)
  · exact fun _ _ _ _ left => ⟨left.1.recorded, left.2.recorded⟩

theorem underway_lookups (agree : AgreeOff any page page') (within : ∀ handle, scope handle → any handle) :
    page.Lookups any (Underway page page' scope loose) := by
  constructor
  · exact fun _ _ underway => underway.left.mono within
  · exact fun _ _ underway => agree.trans (underway.right.mono within)
  · exact fun _ _ _ _ ⟨left, right, between⟩ =>
      ⟨left.recorded, right.recorded, between.elements, between.rules, between.offset⟩

theorem agree_of_alike {action : Action Page Value} (alike : Alike (page.Between loose) action action)
    (keeps : ∀ base, Confined (AgreeOff scope base) action fun _ => True) :
    Agree (Underway page page' scope loose) action action fun _ => Underway page page' scope loose := by
  intro current current' ⟨left, right, between⟩
  obtain ⟨ending, related⟩ := alike current current' ⟨left.rules, between⟩
  exact .of_mapError (congrArg _ ending) fun _ =>
    ⟨(keeps page).keeps left, (keeps page').keeps right, related.2⟩

/-! ## Column ids -/

/-- Once a header has been found, the columns are scrolled to their start. -/
theorem discoverTitles_cons_agree {now : Grid} {scroller : Scroller} {title : String} {titles : List String}
    (within : scope scroller.container)
    (freed : ∀ handle, loose handle → handle ≠ scroller.container → loose' handle)
    (searched : Agree before (scroller.untilPresent Page.browser .right (now.headerPath title))
      (scroller.untilPresent Page.browser .right (now.headerPath title)) fun _ => Underway page page' scope loose)
    (rest : Agree (now.Facing (Underway page page' scope loose'))
      (discoverTitles Page.browser.besideGrid (some scroller) titles)
      (discoverTitles Page.browser.besideGrid (some scroller) titles)
      fun _ => now.Facing (Underway page page' scope loose')) :
    Agree (now.Facing before) (discoverTitles Page.browser.besideGrid (some scroller) (title :: titles))
      (discoverTitles Page.browser.besideGrid (some scroller) (title :: titles))
      fun _ => now.Facing (Underway page page' scope loose') := by
  apply known_agree
  intro columnIds
  have found : Agree (now.Facing before) _ _ _ :=
    facing_agree_unit (fun now => Scroller.untilPresent_alike (Page.browser.beside_alike now) scroller .right _)
      searched
  apply found.bind
  intro header
  have read : Agree (now.Facing (Underway page page' scope loose)) _ _ _ :=
    facing_agree_unit (fun now => (Page.browser.beside_alike now).attribute? header columnIdAttribute)
      (agree_of_alike (onElement_alike fun _ _ _ _ => rfl) fun _ => onElement_confined fun _ _ => trivial)
  apply read.bind
  intro value
  cases value with
  | none => exact .throw _
  | some id =>
      have learns : Agree (now.Facing (Underway page page' scope loose))
          (learn fun grid => { grid with columnIds := grid.columnIds.insert title id })
          (learn fun grid => { grid with columnIds := grid.columnIds.insert title id })
          fun _ => now.Facing (Underway page page' scope loose) :=
        learn_agree fun columnIds => ⟨columnIds.insert title id, rfl⟩
      have returns : Agree (Underway page page' scope loose) (scroller.toTopLeftCorner Page.browser)
          (scroller.toTopLeftCorner Page.browser) fun _ => Underway page page' scope loose' := by
        apply toTopLeftCorner_agree
        · exact fun _ _ underway => underway.between.elements
        · exact fun _ _ call offset underway => ⟨underway.left.recorded.scrolled within offset,
            underway.right.recorded.scrolled within offset,
            (underway.between.moved call offset).mono fun handle in_ => freed handle in_.1 in_.2⟩
      have back : Agree (now.Facing (Underway page page' scope loose)) _ _ _ :=
        facing_agree_unit (fun now => (Page.browser.beside_alike now).scrollTo scroller.container _ _) returns
      apply learns.bind
      intro _
      apply back.bind
      exact fun _ => rest

theorem discoverTitles_agree {now : Grid} {scroller : Scroller} (within : scope scroller.container)
    (free : ¬loose scroller.container) (titles : List String)
    (settled : ∀ title ∈ titles, page.Settled loose (now.headerPath title)) :
    Agree (now.Facing (Underway page page' scope loose))
      (discoverTitles Page.browser.besideGrid (some scroller) titles)
      (discoverTitles Page.browser.besideGrid (some scroller) titles)
      fun _ => now.Facing (Underway page page' scope loose) := by
  induction titles with
  | nil => exact .pure fun _ _ facing => facing
  | cons title titles ih =>
      have searched : Agree (Underway page page' scope loose) _ _ _ :=
        agree_of_alike (untilPresent_alike free (settled title List.mem_cons_self) .right)
          fun base => untilPresent_scrolls within .right _
      apply discoverTitles_cons_agree within (fun handle in_ _ => in_) searched
      exact ih fun title mem => settled title (List.mem_cons_of_mem _ mem)

/-- The search that starts where the pages were left ends akin if it does so on the pages as they are. -/
theorem firstSearch_agree (agree : AgreeOff any page page') (among : ∀ handle, scope handle → any handle)
    {scroller : Scroller} (within : scope scroller.container) (direction : Direction) (path : Path)
    (same : ((scroller.untilPresent Page.browser direction path).outcome page).1.mapError Error.cause =
      ((scroller.untilPresent Page.browser direction path).outcome page').1.mapError Error.cause) :
    Agree (AsLeft page page') (scroller.untilPresent Page.browser direction path)
      (scroller.untilPresent Page.browser direction path) fun _ => Underway page page' scope any := by
  rintro current current' ⟨left, left'⟩
  have ends (start now : Page) (left : Same start now) :
      ((scroller.untilPresent Page.browser direction path).outcome start).1 =
        ((scroller.untilPresent Page.browser direction path).outcome now).1 :=
    (Scroller.untilPresent_alike (browser_alike start) scroller direction path start now ⟨rfl, left⟩).1
  rw [ends page current left, ends page' current' left'] at same
  have scrolls := (untilPresent_scrolls within direction path).keeps (left.mono fun _ => False.elim)
  have scrolls' := (untilPresent_scrolls within direction path).keeps (left'.mono fun _ => False.elim)
  have between := ((scrolls.mono among).symm.trans agree).trans (scrolls'.mono among)
  exact .of_mapError same fun _ => ⟨scrolls, scrolls', between⟩

/-- Where the runs are when the ids of all columns have been found. -/
def Discovered (grid : Grid) (page page' : Page) : Page → Page → Prop :=
  match grid.titles with
  | [] => AsLeft page page'
  | _ :: _ => Underway page page' (fun handle => grid.columnContainerOn page = some handle)
      (grid.ScrolledBelow page)

theorem discoverColumns_agree (virtualized : grid.virtualized = true)
    (agree : AgreeOff (grid.Scrolled page) page page') (settled : grid.SettledOn page)
    (first : grid.FirstHeaderAkin page page') :
    Agree (grid.Facing (AsLeft page page')) (discoverColumns Page.browser.besideGrid)
      (discoverColumns Page.browser.besideGrid)
      fun _ => (grid.located page).Facing (grid.Discovered page page') := by
  apply known_agree
  intro columnIds
  simp only [virtualized, if_true, map_eq_pure_bind, bind_assoc, pure_bind]
  apply (columnScroller_agree (asLeft_lookups agree) settled).bind_good
  rintro scroller ⟨container, settings⟩
  unfold Discovered
  cases titles : grid.titles with
  | nil => exact .pure fun _ _ facing => facing
  | cons title others =>
      have same := first title scroller.container (by rw [titles, List.head?_cons]) container
      rw [headerSearch, headerSearch, ← settings] at same
      have searched : Agree (AsLeft page page')
          (scroller.untilPresent Page.browser .right ((grid.located page).headerPath title)) _ _ :=
        firstSearch_agree agree (fun handle column => .inl column) container .right _ same
      have freed (handle : Handle) (among : grid.Scrolled page handle) (different : handle ≠ scroller.container) :
          grid.ScrolledBelow page handle := by
        have other : grid.columnContainerOn page ≠ some handle := by
          rw [container]
          rintro ⟨⟩
          exact different rfl
        exact ⟨among.resolve_left other, other⟩
      apply discoverTitles_cons_agree container freed searched
      apply discoverTitles_agree container (fun below => below.2 container)
      intro other mem
      exact settled.titles other (by rw [titles]; exact List.mem_cons_of_mem title mem)

/-! ## Rows -/

/-- Pages so related are alike once both containers are scrolled to their starts: they differ in nothing else,
and at the height of the columns only where these are scrolled with the rows. -/
structure Recoverable (grid : Grid) (page : Page) (related : Page → Page → Prop) : Prop where
  lookups : page.Lookups (grid.Scrolled page) related
  among : ∀ current current', related current current' → AgreeOff (grid.Scrolled page) current current'
  level : ∀ current current' handle, related current current' →
    grid.columnContainerOn page = some handle → grid.rowContainerOn page ≠ some handle →
    (current'.offset handle).y = (current.offset handle).y

/-- The rows are at their start on both pages, and the columns are at one height. -/
def RowsAtTop (page : Page) (columns : Handle) (current current' : Page) : Prop :=
  page.Between (fun handle => handle = columns) current current' ∧
    (current'.offset columns).y = (current.offset columns).y

section Rows

variable (recoverable : grid.Recoverable page before)

include recoverable

theorem rowsToTop_agree {rows columns : Scroller} (rowContainer : grid.rowContainerOn page = some rows.container)
    (columnContainer : grid.columnContainerOn page = some columns.container) :
    Agree before (rows.toTopLeftCorner Page.browser) (rows.toTopLeftCorner Page.browser)
      fun _ => RowsAtTop page columns.container := by
  apply toTopLeftCorner_agree
  · exact fun current current' start => (recoverable.among current current' start).elements
  · intro current current' call offset start
    refine ⟨⟨(recoverable.lookups.left current current' start).rules, ?_⟩, ?_⟩
    · apply ((recoverable.among current current' start).moved call offset).mono
      rintro handle ⟨column | row, different⟩
      · rw [columnContainer, Option.some.injEq] at column
        exact column.symm
      · rw [rowContainer, Option.some.injEq] at row
        exact absurd row.symm different
    · rw [offset_moved, offset_moved]
      split
      case isTrue => rfl
      case isFalse different =>
          apply recoverable.level current current' columns.container start columnContainer
          rw [rowContainer, ne_eq, Option.some.injEq]
          exact fun same => different same.symm

omit recoverable in
theorem columnsToLeft_agree (columns : Scroller) :
    Agree (RowsAtTop page columns.container) (columns.toLeftEdge Page.browser)
      (columns.toLeftEdge Page.browser) fun _ => page.Between fun _ => False := by
  apply toLeftEdge_agree columns
  · exact fun current current' start => start.1.2.elements
  · exact fun current current' start => start.2
  · intro current current' call offset start
    exact ⟨start.1.1, (start.1.2.moved call offset).mono fun handle loose => loose.2 loose.1⟩

variable (settled : grid.SettledOn page)

include settled

theorem findRow_agree (index : Nat) (expected : RowSpec) :
    Agree ((grid.located page).Facing before) (findRow Page.browser.besideGrid index expected)
      (findRow Page.browser.besideGrid index expected) fun _ => Beside (page.Between fun _ => False) := by
  have lookups : page.Lookups ((grid.located page).Scrolled page) before := recoverable.lookups
  have settled : (grid.located page).SettledOn page :=
    ⟨settled.header, settled.center, settled.viewport, settled.columns, settled.titles⟩
  rw [findRow_eq]
  apply (rowScroller_agree lookups settled).bind_good
  rintro rows ⟨rowContainer, -⟩
  apply (columnScroller_agree lookups settled).bind_good
  rintro columns ⟨columnContainer, -⟩
  have top : Agree ((grid.located page).Facing before) _ _ _ :=
    facing_agree_unit (fun now => (Page.browser.beside_alike now).scrollTo rows.container _ _)
      (rowsToTop_agree recoverable rowContainer columnContainer)
  have left : Agree ((grid.located page).Facing (RowsAtTop page columns.container)) _ _ _ :=
    facing_agree_unit (fun now => (Page.browser.beside_alike now).scrollTo columns.container _ _)
      (columnsToLeft_agree columns)
  apply top.bind
  intro _
  apply left.bind
  intro _
  have rest := (findRowFromStart_alike (browser_alike page).besideGrid rows columns index expected).agree
  apply rest.strengthen
  rintro whole whole' ⟨columnIds, known, known', related⟩
  exact ⟨known.trans known'.symm, related⟩

theorem findRows_agree (virtualized : grid.virtualized = true) (expected : RowSpec) (others : List RowSpec)
    (index : Nat) :
    Agree ((grid.located page).Facing before) (findRows Page.browser.besideGrid index (expected :: others))
      (findRows Page.browser.besideGrid index (expected :: others))
      fun _ => Beside (page.Between fun _ => False) := by
  apply known_agree
  intro columnIds
  have virtualized : (grid.located page).virtualized = true := virtualized
  simp only [virtualized, if_true]
  apply (findRow_agree recoverable settled index expected).bind
  intro _
  exact (findRows_alike (browser_alike page).besideGrid (index + 1) others).agree

end Rows

/-! ## The whole grid -/

section Whole

variable (virtualized : grid.virtualized = true) (agree : AgreeOff (grid.Scrolled page) page page')
  (settled : grid.SettledOn page)

include agree

theorem discovered_recoverable
    (level : grid.titles = [] → ∀ handle, grid.columnContainerOn page = some handle →
      grid.rowContainerOn page ≠ some handle → (page'.offset handle).y = (page.offset handle).y) :
    grid.Recoverable page (grid.Discovered page page') := by
  unfold Discovered
  cases titles : grid.titles with
  | nil =>
      constructor
      case lookups => exact asLeft_lookups agree
      case among =>
        rintro current current' ⟨left, left'⟩
        exact ((left.symm.mono fun _ => False.elim).trans agree).trans (left'.mono fun _ => False.elim)
      case level =>
        rintro current current' handle ⟨left, left'⟩ columns other
        rw [left.offset handle id, left'.offset handle id]
        exact level titles handle columns other
  | cons title others =>
      constructor
      case lookups => exact underway_lookups agree fun handle column => .inl column
      case among =>
        exact fun current current' underway => underway.between.mono fun handle below => .inr below.1
      case level =>
        intro current current' handle underway columns _
        rw [underway.between.offset handle fun below => below.2 columns]

/-- Where all that is left alone stands alike, the runs are alike once the columns have been found. -/
theorem Discovered.between (alike : ∀ handle, grid.LeftAlone page handle → page'.offset handle = page.offset handle)
    {current current' : Page} (discovered : grid.Discovered page page' current current') :
    page.Between (fun _ => False) current current' := by
  unfold Discovered at discovered
  cases titles : grid.titles with
  | nil =>
      rw [titles] at discovered
      have same : Same page page' := by
        refine ⟨agree.elements, agree.rules, fun handle _ => ?_⟩
        by_cases scrolled : grid.Scrolled page handle
        · exact alike handle ⟨scrolled, .inl titles⟩
        · exact agree.offset handle scrolled
      exact ⟨discovered.1.rules, (discovered.1.symm.trans same).trans discovered.2⟩
  | cons title others =>
      rw [titles] at discovered
      refine ⟨discovered.left.rules, discovered.between.elements, discovered.between.rules, fun handle _ => ?_⟩
      by_cases below : grid.ScrolledBelow page handle
      · rw [discovered.right.offset handle below.2, discovered.left.offset handle below.2]
        exact alike handle ⟨.inr below.1, .inr below.2⟩
      · exact discovered.between.offset handle below

variable (first : grid.FirstHeaderAkin page page')

include virtualized settled first

theorem verify_agree (rowsFrom : grid.RowsFromAlike page page') :
    Agree (grid.Facing (AsLeft page page')) (verify Page.browser.besideGrid) (verify Page.browser.besideGrid)
      fun _ _ _ => True := by
  have alike := (browser_alike page).besideGrid
  apply (discoverColumns_agree virtualized agree settled first).bind
  intro _
  apply known_agree
  intro columnIds
  have rows : ({ grid.located page with columnIds } : Grid).rows = grid.rows := rfl
  have strict : ({ grid.located page with columnIds } : Grid).strict = grid.strict := rfl
  rw [rows, strict]
  have refused : Agree (Beside (page.Between fun _ => False))
      (if grid.strict then refuseRow Page.browser.besideGrid grid.rows.length else pure ())
      (if grid.strict then refuseRow Page.browser.besideGrid grid.rows.length else pure ())
      fun _ _ _ => True := by
    split
    · exact (refuseRow_alike alike _).agree.weaken fun _ _ _ _ => trivial
    · exact .pure fun _ _ _ => trivial
  cases expected : grid.rows with
  | nil =>
      rw [expected] at refused
      simp only [findRows, pure_bind]
      split
      case isTrue refuses =>
          rw [if_pos refuses] at refused
          apply refused.strengthen
          rintro whole whole' ⟨columnIds, known, known', discovered⟩
          exact ⟨known.trans known'.symm, discovered.between agree (rowsFrom.last expected refuses)⟩
      case isFalse => exact .pure fun _ _ _ => trivial
  | cons row others =>
      rw [expected] at refused
      have recoverable := discovered_recoverable agree fun untitled =>
        rowsFrom.level untitled (expected ▸ List.cons_ne_nil row others)
      apply (findRows_agree recoverable settled virtualized row others 0).bind
      exact fun _ => refused

omit agree virtualized settled first in
theorem setImplicitTimeout_agree (milliseconds : Nat) :
    Agree (grid.Facing (AsLeft page page')) (Page.browser.besideGrid.setImplicitTimeout milliseconds)
      (Page.browser.besideGrid.setImplicitTimeout milliseconds) fun _ => grid.Facing (AsLeft page page') := by
  have sets : Agree (AsLeft page page') (Page.browser.setImplicitTimeout milliseconds)
      (Page.browser.setImplicitTimeout milliseconds) fun _ => AsLeft page page' := by
    rintro current current' ⟨left, left'⟩
    exact .ok () ⟨⟨left.elements, left.rules, left.offset⟩, left'.elements, left'.rules, left'.offset⟩
  exact facing_agree_unit (fun now => Action.beside_alike _ now) sets

theorem findColumnIds_agree :
    Agree (grid.Facing (AsLeft page page')) Page.browser.findColumnIds Page.browser.findColumnIds
      fun _ _ _ => True := by
  have discovers := (discoverColumns_agree virtualized agree settled first).weaken
    fun _ whole whole' (facing : (grid.located page).Facing _ whole whole') =>
      show whole.1 = whole'.1 from facing.elim fun _ found => found.1.trans found.2.1.symm
  have lowered : Agree (grid.Facing (AsLeft page page'))
      (underTimeouts Page.browser.besideGrid (discoverColumns Page.browser.besideGrid))
      (underTimeouts Page.browser.besideGrid (discoverColumns Page.browser.besideGrid))
      fun _ whole whole' => whole.1 = whole'.1 := by
    apply known_agree
    intro columnIds
    exact .withTimeout (setImplicitTimeout_agree _) discovers fun _ _ _ same => same
  apply lowered.bind
  intro _ whole whole' same
  rw [known, outcome_bind_of_ok (outcome_look _ _), outcome_bind_of_ok (outcome_look _ _), same]
  exact .ok _ trivial

theorem findGrid_agree (rowsFrom : grid.RowsFromAlike page page') :
    Agree (grid.Facing (AsLeft page page')) Page.browser.findGrid Page.browser.findGrid fun _ _ _ => True := by
  apply known_agree
  intro columnIds
  simp only [virtualized, if_true]
  have found : Agree (grid.Facing (AsLeft page page')) _ _ _ :=
    facing_agree (fun now => (Page.browser.beside_alike now).find (headerCell.inside grid.regions.headers))
      ((asLeft_lookups agree).find_agree settled.header)
  apply found.bind_good
  intro _ _
  apply known_agree
  intro columnIds
  exact .withTimeout (setImplicitTimeout_agree _) (verify_agree virtualized agree settled first rowsFrom)
    fun _ _ _ _ => trivial

/-- What is found of a grid depends on where the page was left by the search for its first header and, where
no row is expected, by that for a row too many. -/
theorem found_wherever_left :
    grid.ending Page.browser.findColumnIds page = grid.ending Page.browser.findColumnIds page' ∧
      (grid.RowsFromAlike page page' →
        grid.ending Page.browser.findGrid page = grid.ending Page.browser.findGrid page') := by
  have facing : grid.Facing (AsLeft page page') (grid, page) (grid, page') :=
    ⟨grid.columnIds, rfl, rfl, .refl page, .refl page'⟩
  constructor
  · exact (findColumnIds_agree virtualized agree settled first _ _ facing).mapError
  · exact fun rowsFrom => (findGrid_agree virtualized agree settled first rowsFrom _ _ facing).mapError

end Whole

/-! ## Where it was left all the same -/

/-- A header that both pages show is found at once. -/
theorem FirstHeaderAkin.of_shown
    (shown : ∀ title, grid.titles.head? = some title → ∃ header,
      page.first? (grid.headerPath title) = some header ∧ page'.first? (grid.headerPath title) = some header) :
    grid.FirstHeaderAkin page page' := by
  intro title columns head _
  obtain ⟨header, first, first'⟩ := shown title head
  simp only [headerSearch, outcome_untilPresent_of_first? first, outcome_untilPresent_of_first? first']

/-- From one offset the columns are searched alike, wherever the rows are. -/
theorem FirstHeaderAkin.of_level (agree : AgreeOff (grid.Scrolled page) page page') (settled : grid.SettledOn page)
    (level : ∀ columns, grid.columnContainerOn page = some columns → page'.offset columns = page.offset columns) :
    grid.FirstHeaderAkin page page' := by
  intro title columns head container
  have below : AgreeOff (grid.ScrolledBelow page) page page' := by
    refine ⟨agree.elements, agree.rules, fun handle settled => ?_⟩
    by_cases column : grid.columnContainerOn page = some handle
    · exact level handle column
    · exact agree.offset handle fun scrolled => settled ⟨scrolled.resolve_left column, column⟩
  have header := settled.titles title (List.mem_of_head? head)
  have free : ¬grid.ScrolledBelow page (Scroller.mk columns grid.settings.scroll).container :=
    fun loose => loose.2 container
  have ending := (untilPresent_alike free header .right page page' ⟨rfl, below⟩).1
  simp only [headerSearch, ending]

/-- A strict grid of two columns and one row. -/
def shelfGrid : Grid where
  titles := ["A", "B"]
  rows := [.ofTexts [("A", "1")]]
  virtualized := true
  strict := true
  regions := .inside Html.html
  settings := {}

/-- A page that shows the grid: the first header near the left, the other one further right, and the row near
the top. -/
def shelfPage : Page :=
  let rows : Handle := ⟨"rows"⟩
  let columns : Handle := ⟨"columns"⟩
  let named (id : String) : Element := { attributes := .ofList [(columnIdAttribute, id)] }
  let framed := (Page.add {} rows { rect := ⟨0, 30, 400, 200⟩, extent := ⟨0, 600⟩ }).add columns
    { rect := ⟨0, 30, 400, 200⟩, extent := ⟨600, 0⟩ }
  let filled := (((framed.add ⟨"a"⟩ (named "a")).add ⟨"b"⟩ (named "b")).add ⟨"row"⟩
    { rect := ⟨0, 40, 400, 20⟩, anchor := some rows }).add ⟨"cell"⟩ { anchor := some rows }
  let placed := ((filled.register shelfGrid.regions.content ⟨[rows], none⟩).register
    shelfGrid.regions.viewport ⟨[rows], none⟩).register shelfGrid.regions.centerViewport ⟨[columns], none⟩
  let headed := ((placed.register (headerCell.inside shelfGrid.regions.headers) ⟨[⟨"a"⟩], none⟩).register
    (shelfGrid.headerPath "A") ⟨[⟨"a"⟩], some { container := columns, x := .between 0 100 }⟩).register
    (shelfGrid.headerPath "B") ⟨[⟨"b"⟩], some { container := columns, x := .between 300 600 }⟩
  (headed.register (shelfGrid.rowPath 0) ⟨[⟨"row"⟩], some { container := rows, y := .between 0 100 }⟩).register
    ((cellPath (shelfGrid.rowPath 0) "a").and (.hasAggregatedText "1")) ⟨[⟨"cell"⟩], none⟩

/-- The page left with a container scrolled. -/
def shelfPageAt (container : Handle) (x y : Option Int) : Page :=
  ((Page.browser.scrollTo container x y).outcome shelfPage).2

theorem shelfPage_reachable : shelfPage.Reachable := by
  iterate 8 refine .change ?_ (.registerXPath _ _)
  iterate 6 refine .change ?_ (.add _ _ (by decide +kernel))
  exact .blank

theorem shelfPageAt_agree {loose : Handle → Prop} {container : Handle} (within : loose container)
    (x y : Option Int) : AgreeOff loose shelfPage (shelfPageAt container x y) := by
  unfold shelfPageAt
  dsimp only [Page.browser]
  exact (scroll_keeps within).keeps (.refl shelfPage)

/-- A page scrolled past its first header does not have the columns, and one scrolled past its first row has
none for a grid that allows none. -/
theorem lost_where_left :
    let rowless : Grid := { shelfGrid with rows := [] }
    let sideways := shelfPageAt ⟨"columns"⟩ (some 600) none
    let down := shelfPageAt ⟨"rows"⟩ none (some 600)
    shelfPage.Reachable ∧ sideways.Reachable ∧ down.Reachable ∧
      AgreeOff (rowless.Scrolled shelfPage) shelfPage sideways ∧
      AgreeOff (rowless.Scrolled shelfPage) shelfPage down ∧
      rowless.virtualized = true ∧ rowless.columnIds = .empty ∧
      rowless.ending Page.browser.findColumnIds shelfPage = .ok (.ofList [("A", "a"), ("B", "b")]) ∧
      rowless.ending Page.browser.findColumnIds sideways = .error .notFound ∧
      rowless.ending Page.browser.findGrid shelfPage = .error .notFound ∧
      rowless.ending Page.browser.findGrid down = .ok () := by
  intro rowless sideways down
  have columns : rowless.Scrolled shelfPage ⟨"columns"⟩ := .inl (by decide +kernel)
  have rows : rowless.Scrolled shelfPage ⟨"rows"⟩ := .inr (by decide +kernel)
  refine ⟨shelfPage_reachable, .change shelfPage_reachable (.scrollTo _ _ _),
    .change shelfPage_reachable (.scrollTo _ _ _), shelfPageAt_agree columns _ _, shelfPageAt_agree rows _ _, rfl,
    rfl, ?_⟩
  decide +kernel

theorem found_wherever_left_shelf :
    let page := shelfPageAt ⟨"columns"⟩ (some 50) none
    let page' := shelfPageAt ⟨"rows"⟩ none (some 600)
    AgreeOff (shelfGrid.Scrolled page) page page' ∧ shelfGrid.SettledOn page ∧
      shelfGrid.FirstHeaderAkin page page' ∧ shelfGrid.RowsFromAlike page page' ∧
      shelfGrid.ending Page.browser.findColumnIds page' = .ok (.ofList [("A", "a"), ("B", "b")]) ∧
      shelfGrid.ending Page.browser.findGrid page' = .ok () := by
  intro page page'
  have columns : shelfGrid.columnContainerOn page = some ⟨"columns"⟩ := by decide +kernel
  have rows : shelfGrid.rowContainerOn page = some ⟨"rows"⟩ := by decide +kernel
  have agree : AgreeOff (shelfGrid.Scrolled page) page page' :=
    (shelfPageAt_agree (.inl columns) _ _).symm.trans (shelfPageAt_agree (.inr rows) _ _)
  have windowless : ∀ path ∈ [headerCell.inside shelfGrid.regions.headers, shelfGrid.regions.centerViewport,
      shelfGrid.regions.viewport, shelfGrid.columnPlace page], ∀ window ∈ page.windows path, False := by
    decide +kernel
  have onColumns {window : Window} (same : window.container = ⟨"columns"⟩) :
      ¬shelfGrid.ScrolledBelow page window.container := by
    rintro ⟨_, other⟩
    exact other (same ▸ columns)
  have settled : shelfGrid.SettledOn page := by
    constructor
    case header => exact fun window mem => (windowless _ (by simp) window mem).elim
    case center => exact fun window mem => (windowless _ (by simp) window mem).elim
    case viewport => exact fun window mem => (windowless _ (by simp) window mem).elim
    case columns => exact fun window mem => (windowless _ (by simp) window mem).elim
    case titles =>
      have windows : ∀ title ∈ shelfGrid.titles, ∀ window ∈ page.windows (shelfGrid.headerPath title),
          window.container = ⟨"columns"⟩ := by decide +kernel
      exact fun title mem window among => onColumns (windows title mem window among)
  have first : shelfGrid.FirstHeaderAkin page page' := by
    apply FirstHeaderAkin.of_shown
    rintro title ⟨⟩
    exact ⟨⟨"a"⟩, by decide +kernel, by decide +kernel⟩
  have rowsFrom : shelfGrid.RowsFromAlike page page' := by
    constructor
    · rintro ⟨⟩
    · rintro ⟨⟩
  obtain ⟨sameIds, sameEnd⟩ := found_wherever_left rfl agree settled first
  refine ⟨agree, settled, first, rowsFrom, ?_, ?_⟩
  · rw [← sameIds]
    decide +kernel
  · rw [← sameEnd rowsFrom]
    decide +kernel

end Grid

end Locator
