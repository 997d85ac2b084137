import Locator.Proofs.Grid.Alike
import Locator.Proofs.Page.Rendered

/-!
# What it takes to find a grid

On a page that is rendered as a whole, a grid is found exactly when the page shows it: a header with an id for
every title, every expected row with every expected cell, and no row after them where that is refused.
-/

namespace Locator

open Locator.Action

set_option autoImplicit false

namespace Grid

/-! ## Grids on pages -/

/-- The page has the places of the grid, is rendered as a whole, and its rows start above the lower edge of
the content, which is not placed in a container itself. -/
structure RenderedOn (grid : Grid) (page : Page) : Prop where
  rendered : page.FullyRendered
  header : (page.first? (headerCell.inside grid.regions.headers)).isSome
  viewport : (page.first? grid.regions.viewport).isSome
  rows : ∃ content element, page.first? grid.regions.content = some content ∧
    page.elements.get? content.id = some element ∧ element.anchor = none ∧
    ∀ index < grid.rows.length, ∀ row ∈ page.resolve (grid.rowPath index).toXPath,
      ∀ rowElement, page.elements.get? row.id = some rowElement →
        rowElement.rect.y < element.rect.y + element.rect.height

/-- The page is rendered as a whole and has the viewport of the grid. -/
structure ViewedOn (grid : Grid) (page : Page) : Prop where
  rendered : page.FullyRendered
  viewport : (page.first? grid.regions.viewport).isSome

/-- The rows with this index start above the lower edge of the content, which is not placed in a container. -/
def StartsWithin (grid : Grid) (page : Page) (index : Nat) : Prop :=
  ∃ content element, page.first? grid.regions.content = some content ∧
    page.elements.get? content.id = some element ∧ element.anchor = none ∧
    ∀ row ∈ page.resolve (grid.rowPath index).toXPath, ∀ rowElement, page.elements.get? row.id = some rowElement →
      rowElement.rect.y < element.rect.y + element.rect.height

/-- The id that the first header with this title has. -/
def columnIdOn (grid : Grid) (page : Page) (title : String) : Option String := do
  let header ← page.first? (grid.headerPath title)
  let element ← page.elements.get? header.id
  element.attribute? columnIdAttribute

/-- The page has everything that is expected of the grid. -/
structure ShownOn (grid : Grid) (page : Page) : Prop where
  columns : ∀ title ∈ grid.titles, (grid.columnIdOn page title).isSome
  titles : ∀ expected ∈ grid.rows, ∀ cell ∈ expected.cells, cell.1 ∈ grid.titles
  rows : ∀ index < grid.rows.length, (page.first? (grid.rowPath index)).isSome
  cells : ∀ index expected, grid.rows[index]? = some expected → ∀ cell ∈ expected.cells, ∀ id,
    grid.columnIdOn page cell.1 = some id →
    (page.first? ((cellPath (grid.rowPath index) id).and cell.2)).isSome
  last : grid.strict = true → page.first? (grid.rowPath grid.rows.length) = none

variable {grid : Grid} {base : Page} {ids : String → Option String}

theorem RenderedOn.viewed (rendered : grid.RenderedOn base) : grid.ViewedOn base :=
  ⟨rendered.rendered, rendered.viewport⟩

theorem RenderedOn.startsWithin (rendered : grid.RenderedOn base) {index : Nat} (inRange : index < grid.rows.length) :
    grid.StartsWithin base index := by
  obtain ⟨content, element, first, live, unanchored, above⟩ := rendered.rows
  exact ⟨content, element, first, live, unanchored, above index inRange⟩

/-! ## Exploring a page -/

/-- What may be known of the grid when these column ids are: where its columns scroll is on the page. -/
inductive Learnt (grid : Grid) (base : Page) (ids : String → Option String) : Grid → Prop where
  | mk (columnIds : Keyed String) (columnViewport : Option Path) (known : columnIds.get? = ids)
      (found : ∀ path, columnViewport = some path → (base.first? path).isSome) :
      Learnt grid base ids { grid with columnIds, columnViewport }

/-- The page is as it was but for being scrolled, and these column ids are known. -/
def Explores (grid : Grid) (base : Page) (ids : String → Option String) (whole : Grid × Page) : Prop :=
  grid.Learnt base ids whole.1 ∧ base.Like whole.2

theorem known_keeps : Keeps (grid.Explores base ids) known (grid.Learnt base ids) fun _ => False := by
  intro whole explores
  exact ⟨explores.1, explores⟩

theorem learn_keeps {change : Grid → Grid}
    (learnt : ∀ now, grid.Learnt base ids now → grid.Learnt base ids (change now)) :
    Keeps (grid.Explores base ids) (learn change) (fun _ => True) fun _ => False := by
  intro whole explores
  exact ⟨trivial, learnt whole.1 explores.1, explores.2⟩

/-- What an action keeps of a page, it keeps of the page beside the grid. -/
theorem beside_keeps {Value : Type} {left : Action Page Value} {right : GridAction Page Value}
    {good : Value → Prop} {bad : Error → Prop} {P : Grid → Prop} (keeps : Keeps base.Like left good bad)
    (alike : ∀ now, Alike (fun page whole => whole = (now, page)) left right) :
    Keeps (fun whole => P whole.1 ∧ base.Like whole.2) right good bad := by
  apply Concludes.beside alike
  intro now
  apply Concludes.given (P now) fun page kept => kept.1
  intro learnt
  apply (keeps.strengthen fun page kept => kept.2).weaken
  · intro value page ended
    exact ⟨ended.1, learnt, ended.2⟩
  · intro error page ended
    exact ⟨ended.1, learnt, ended.2⟩

theorem setImplicitTimeout_explores (milliseconds : Nat) :
    Concludes (grid.Explores base ids) (Page.browser.besideGrid.setImplicitTimeout milliseconds)
      (fun _ => grid.Explores base ids) fun _ _ => False := by
  have sets : Keeps (grid.Explores base ids) (Page.browser.besideGrid.setImplicitTimeout milliseconds)
      (fun _ => True) fun _ => False :=
    beside_keeps (Page.setImplicitTimeout_keeps milliseconds) (Action.beside_alike _)
  exact Concludes.weaken sets (fun _ _ ended => ended.2) fun _ _ ended => ended.1

/-- A scroller of the grid, whose container is on the page. -/
structure Scrolls (grid : Grid) (base : Page) (scroller : Scroller) : Prop where
  settings : scroller.settings = grid.settings.scroll
  live : ∃ element, base.elements.get? scroller.container.id = some element

section Rendered

variable (rendered : base.FullyRendered)

include rendered

theorem find_keeps (path : Path) :
    Keeps (grid.Explores base ids) (Page.browser.besideGrid.find path)
      (fun handle => base.first? path = some handle)
      fun error => base.first? path = none ∧ error.isNotFound = true :=
  beside_keeps (rendered.find_keeps path) fun now => (Page.browser.beside_alike now).find path

/-- A path that matches is found. -/
theorem find_sure {path : Path} (present : (base.first? path).isSome) :
    Keeps (grid.Explores base ids) (Page.browser.besideGrid.find path)
      (fun handle => base.first? path = some handle) fun _ => False := by
  apply (find_keeps rendered path).weaken fun _ found => found
  intro error missing
  simp [missing.1] at present

theorem findAll_keeps (path : Path) :
    Keeps (grid.Explores base ids) (Page.browser.besideGrid.findAll path)
      (fun found => found = base.resolve path.toXPath) fun _ => False :=
  beside_keeps (rendered.findAll_keeps path) fun now => (Page.browser.beside_alike now).findAll path

theorem scroller_keeps {path : Path} (present : (base.first? path).isSome) :
    Keeps (grid.Explores base ids) (Scroller.ofTarget Page.browser.besideGrid (.path path))
      (fun scroller => ∃ element, base.elements.get? scroller.container.id = some element)
      fun _ => False := by
  apply (find_sure rendered present).bind
  intro container found
  obtain ⟨element, live, _⟩ := rendered.shown_of_first? found
  exact .pure ⟨element, live⟩

end Rendered

section Scrolling

variable {scroller : Scroller} (scrolls : grid.Scrolls base scroller)

include scrolls

theorem scrollTo_keeps (x y : Option Int) :
    Keeps (grid.Explores base ids) (Page.browser.besideGrid.scrollTo scroller.container x y)
      (fun _ => True) fun _ => False := by
  obtain ⟨element, live⟩ := scrolls.live
  exact beside_keeps (Page.scrollTo_keeps live x y)
    fun now => (Page.browser.beside_alike now).scrollTo scroller.container x y

theorem untilPresent_keeps (rendered : base.FullyRendered) (sized : base.Sized grid.settings.scroll.step)
    (stallsFit : grid.settings.scroll.maxStalls < 0x100000000) (direction : Direction) (path : Path) :
    Keeps (grid.Explores base ids) (scroller.untilPresent Page.browser.besideGrid direction path)
      (fun handle => base.first? path = some handle)
      fun error => base.first? path = none ∧ error.isNotFound = true := by
  obtain ⟨element, live⟩ := scrolls.live
  rw [← scrolls.settings] at sized stallsFit
  exact beside_keeps (rendered.untilPresent_keeps sized live stallsFit direction path)
    fun now => Scroller.untilPresent_alike (Page.browser.beside_alike now) scroller direction path

end Scrolling

/-- A search whose first probe finds something takes no step. -/
theorem untilAccepted_keeps {State : Type} {kept : State → Prop} {browser : Browser State}
    {scroller : Scroller} {direction : Direction} {path : Path} {accept : Handle → Action State Bool}
    {found : Handle} {bad : Error → Prop}
    (probes : Keeps kept (Scroller.probe browser path accept) (fun first => first = some found) bad) :
    Keeps kept (scroller.untilAccepted browser direction path accept) (fun handle => handle = found)
      bad := by
  unfold Scroller.untilAccepted
  rw [show stepLimit = 0xffffffffffffffff + 1 from rfl, Scroller.searchFrom]
  apply probes.bind
  rintro first rfl
  exact .pure rfl

section Page

variable (viewed : grid.ViewedOn base)

include viewed

theorem columnContainer_keeps :
    Keeps (grid.Explores base ids) (columnContainer Page.browser.besideGrid)
      (fun path => (base.first? path).isSome) fun _ => False := by
  apply known_keeps.bind_sure
  rintro now ⟨columnIds, columnViewport, known, found⟩
  cases columnViewport with
  | some path => exact .pure (found path rfl)
  | none =>
      have looked : Keeps (grid.Explores base ids)
          (Page.browser.besideGrid.isPresent grid.regions.centerViewport)
          (fun present => present = !(base.resolve grid.regions.centerViewport.toXPath).isEmpty)
          fun _ => False := by
        apply (findAll_keeps viewed.rendered _).bind
        rintro matched rfl
        exact .pure rfl
      apply looked.bind
      intro present resolved
      have chosen : (base.first? (if present then grid.regions.centerViewport else grid.regions.viewport)).isSome := by
        cases present with
        | true =>
            simp only [if_true, Page.first?]
            cases centers : base.resolve grid.regions.centerViewport.toXPath with
            | nil => simp [centers] at resolved
            | cons first others => rfl
        | false => exact viewed.viewport
      apply Keeps.bind (learn_keeps _)
      · intro _ _
        exact .pure chosen
      · rintro now ⟨columnIds, columnViewport, known, _⟩
        refine .mk columnIds _ known ?_
        rintro path ⟨⟩
        exact chosen

theorem rowScroller_keeps :
    Keeps (grid.Explores base ids) (rowScroller Page.browser.besideGrid) (grid.Scrolls base)
      fun _ => False := by
  apply known_keeps.bind
  rintro now ⟨columnIds, columnViewport, known, found⟩
  apply (scroller_keeps viewed.rendered viewed.viewport).bind
  intro scroller live
  exact .pure ⟨rfl, live⟩

theorem columnScroller_keeps :
    Keeps (grid.Explores base ids) (columnScroller Page.browser.besideGrid) (grid.Scrolls base)
      fun _ => False := by
  apply (columnContainer_keeps viewed).bind
  intro container present
  apply (scroller_keeps viewed.rendered present).bind
  intro scroller live
  apply known_keeps.bind
  rintro now ⟨columnIds, columnViewport, known, found⟩
  exact .pure ⟨rfl, live⟩

/-! ## Columns -/

variable (sized : base.Sized grid.settings.scroll.step) (stallsFit : grid.settings.scroll.maxStalls < 0x100000000)

/-- The ids that are known once these titles have been looked for. -/
def discovered (grid : Grid) (base : Page) (titles : List String) (ids : String → Option String)
    (title : String) : Option String :=
  if title ∈ titles then grid.columnIdOn base title else ids title

omit viewed in
theorem discovered_nil : grid.discovered base [] ids = ids := by
  funext title
  simp [discovered]

omit viewed in
theorem discovered_cons {title id : String} {titles : List String} (found : grid.columnIdOn base title = some id) :
    grid.discovered base titles (fun other => if title = other then some id else ids other) =
      grid.discovered base (title :: titles) ids := by
  funext other
  simp only [discovered, List.mem_cons]
  by_cases later : other ∈ titles
  · simp [later]
  · by_cases same : title = other
    · subst same
      simp [later, found]
    · simp [later, same, Ne.symm same]

include sized stallsFit

/-- Each title's id is that of its first header. -/
theorem discoverTitles_concludes {scroller : Scroller} (scrolls : grid.Scrolls base scroller)
    (titles : List String) :
    Concludes (grid.Explores base ids)
      (discoverTitles Page.browser.besideGrid (some scroller) titles)
      (fun _ whole => (∀ title ∈ titles, (grid.columnIdOn base title).isSome) ∧
        grid.Explores base (grid.discovered base titles ids) whole)
      fun _ _ => ¬∀ title ∈ titles, (grid.columnIdOn base title).isSome := by
  induction titles generalizing ids with
  | nil =>
      rw [discovered_nil]
      exact .pure fun whole explores => ⟨by simp, explores⟩
  | cons title titles ih =>
      apply known_keeps.bind_concludes (fun _ _ => False.elim)
      rintro now ⟨columnIds, columnViewport, known, viewport⟩
      have searched : Keeps (grid.Explores base ids) _ _ _ :=
        untilPresent_keeps scrolls viewed.rendered sized stallsFit .right (grid.headerPath title)
      apply searched.bind_concludes
      · intro error whole missing _ every
        have present := every title List.mem_cons_self
        simp [columnIdOn, missing.1] at present
      intro header first
      obtain ⟨element, live, _⟩ := viewed.rendered.shown_of_first? first
      have reading : grid.columnIdOn base title = element.attribute? columnIdAttribute := by
        simp [columnIdOn, first, live]
      have read : Keeps (grid.Explores base ids) _ _ _ :=
        beside_keeps (Page.attribute?_keeps live columnIdAttribute)
          fun now => (Page.browser.beside_alike now).attribute? header columnIdAttribute
      apply read.bind_concludes (fun _ _ => False.elim)
      intro value there
      rw [← there] at reading
      cases value with
      | none =>
          apply Concludes.throw
          intro whole _ every
          have present := every title List.mem_cons_self
          simp [reading] at present
      | some id =>
          have learns : Concludes (grid.Explores base ids)
              (learn fun grid => { grid with columnIds := grid.columnIds.insert title id })
              (fun _ => grid.Explores base fun other => if title = other then some id else ids other)
              fun _ _ => False := by
            rintro ⟨now, page⟩ ⟨⟨columnIds, columnViewport, known, viewport⟩, like⟩
            refine ⟨.mk _ columnViewport ?_ viewport, like⟩
            funext other
            rw [Keyed.get?_insert, known]
          apply (learns.weaken (fun _ _ ended => ended) fun _ _ => False.elim).bind
          intro _
          apply (scrollTo_keeps scrolls _ _).bind_concludes (fun _ _ => False.elim)
          intro _ _
          apply ih.weaken
          · intro _ whole ended
            rw [← discovered_cons reading, List.forall_mem_cons]
            exact ⟨⟨by simp [reading], ended.1⟩, ended.2⟩
          · intro _ whole missing every
            exact missing fun later mem => every later (List.mem_cons_of_mem title mem)

theorem discoverColumns_concludes (virtualized : grid.virtualized = true) :
    Concludes (grid.Explores base ids) (discoverColumns Page.browser.besideGrid)
      (fun _ whole => (∀ title ∈ grid.titles, (grid.columnIdOn base title).isSome) ∧
        grid.Explores base (grid.discovered base grid.titles ids) whole)
      fun _ _ => ¬∀ title ∈ grid.titles, (grid.columnIdOn base title).isSome := by
  apply known_keeps.bind_concludes (fun _ _ => False.elim)
  rintro now ⟨columnIds, columnViewport, known, viewport⟩
  simp only [virtualized, if_true, map_eq_pure_bind]
  have scroller : Keeps (grid.Explores base ids)
      (columnScroller Page.browser.besideGrid >>= fun scroller => pure (some scroller))
      (fun columns => ∃ scroller, columns = some scroller ∧ grid.Scrolls base scroller) fun _ => False :=
    (columnScroller_keeps viewed).bind fun scroller scrolls => .pure ⟨scroller, rfl, scrolls⟩
  apply scroller.bind_concludes (fun _ _ => False.elim)
  rintro columns ⟨scroller, rfl, scrolls⟩
  exact discoverTitles_concludes viewed sized stallsFit scrolls grid.titles

/-! ## Rows and cells -/

/-- The first header with the cell's title has an id, and the row a cell of that column as expected. -/
def ShowsCell (base : Page) (ids : String → Option String) (row : Path) (cell : String × Property) : Prop :=
  ∃ id, ids cell.1 = some id ∧ (base.first? ((cellPath row id).and cell.2)).isSome

/-- The row is there and has all cells as expected. -/
def ShowsRow (grid : Grid) (base : Page) (ids : String → Option String) (index : Nat) (expected : RowSpec) :
    Prop :=
  (base.first? (grid.rowPath index)).isSome ∧
    ∀ cell ∈ expected.cells, ShowsCell base ids (grid.rowPath index) cell

/-- Some cell is not there as expected. If all columns are known, the error says that it was not found. -/
def CellMissed (base : Page) (ids : String → Option String) (row : Path) (cells : List (String × Property))
    (error : Error) : Prop :=
  (¬∀ cell ∈ cells, ShowsCell base ids row cell) ∧ ((∀ cell ∈ cells, (ids cell.1).isSome) → error.isNotFound = true)

/-- How looking for a row fails. -/
inductive RowMissed (grid : Grid) (base : Page) (ids : String → Option String) (index : Nat) (expected : RowSpec)
    (error : Error) : Prop where
  | absent (missing : base.first? (grid.rowPath index) = none) (outOfBounds : error.cause = .indexOutOfBounds)
  | differs (present : (base.first? (grid.rowPath index)).isSome)
      (missed : CellMissed base ids (grid.rowPath index) expected.cells error)

omit viewed sized stallsFit in
theorem RowMissed.not_shown {index : Nat} {expected : RowSpec} {error : Error}
    (missed : grid.RowMissed base ids index expected error) : ¬grid.ShowsRow base ids index expected := by
  rintro ⟨present, every⟩
  cases missed with
  | absent missing => simp [missing] at present
  | differs _ missed => exact missed.1 every

theorem findCells_keeps {scroller : Scroller} (scrolls : grid.Scrolls base scroller) (row : Path)
    (cells : List (String × Property)) :
    Keeps (grid.Explores base ids) (findCells Page.browser.besideGrid scroller row cells)
      (fun _ => ∀ cell ∈ cells, ShowsCell base ids row cell) (CellMissed base ids row cells) := by
  unfold CellMissed
  induction cells with
  | nil => exact .pure (by simp)
  | cons cell cells ih =>
      obtain ⟨title, expected⟩ := cell
      simp only [List.forall_mem_cons]
      apply known_keeps.bind_sure
      rintro now ⟨columnIds, columnViewport, known, viewport⟩
      have reads : Keeps (grid.Explores base ids)
          (ofExcept ({ grid with columnIds, columnViewport }.columnId? title))
          (fun id => ids title = some id) fun _ => ids title = none := by
        rw [← known]
        cases there : columnIds.get? title with
        | none => exact .ofExcept (by simp [columnId?, there]) (by simp [columnId?, there])
        | some id => exact .ofExcept (by simp [columnId?, there]) (by simp [columnId?, there])
      apply reads.then
      · intro error unknown
        refine ⟨fun every => ?_, fun titles => ?_⟩
        · obtain ⟨id, there, _⟩ := every.1
          simp [unknown] at there
        · simp [unknown] at titles
      intro id there
      have searched : Keeps (grid.Explores base ids) _ _ _ :=
        untilPresent_keeps scrolls viewed.rendered sized stallsFit .right ((cellPath row id).and expected)
      apply searched.then
      · intro error missing
        refine ⟨fun every => ?_, fun _ => missing.2⟩
        obtain ⟨other, same, present⟩ := every.1
        rw [there, Option.some.injEq] at same
        subst same
        simp [missing.1] at present
      intro handle first
      apply (scrollTo_keeps scrolls _ _).bind_sure
      intro _ _
      apply ih.weaken
      · intro _ shown
        exact ⟨⟨id, there, by simp [first]⟩, shown⟩
      · intro _ missed
        exact ⟨fun every => missed.1 every.2, fun titles => missed.2 titles.2⟩

omit stallsFit in
theorem contentBox_keeps {content : Handle} {element : Element}
    (first : base.first? grid.regions.content = some content)
    (live : base.elements.get? content.id = some element) (unanchored : element.anchor = none) :
    Keeps (grid.Explores base ids) (contentBox Page.browser.besideGrid) (fun box => box = element.rect)
      fun _ => False := by
  apply known_keeps.bind
  rintro now ⟨columnIds, columnViewport, known, viewport⟩
  apply (find_sure viewed.rendered (by simp [first])).bind
  intro handle there
  rw [first, Option.some.injEq] at there
  subst there
  have measured : Keeps (grid.Explores base ids) _ _ _ :=
    beside_keeps (Page.rect_keeps live sized) fun now => (Page.browser.beside_alike now).rect content
  exact measured.weaken (fun box placed => placed.2 unanchored) fun _ => False.elim

omit stallsFit in
/-- The first match is displayed, and scrolling can only move it up. -/
theorem rowProbe_keeps {path : Path} {row : Handle} {bottom : Int} (first : base.first? path = some row)
    (above : ∀ element, base.elements.get? row.id = some element → element.rect.y < bottom) :
    Keeps (grid.Explores base ids)
      (Scroller.probe Page.browser.besideGrid path (rowVisible Page.browser.besideGrid bottom))
      (fun found => found = some row) fun _ => False := by
  obtain ⟨element, live, displayed⟩ := viewed.rendered.shown_of_first? first
  obtain ⟨others, resolved⟩ := Page.first?_eq_some_iff.mp first
  have visible : Keeps (grid.Explores base ids) (rowVisible Page.browser.besideGrid bottom row)
      (fun accepted => accepted = true) fun _ => False := by
    have shows : Keeps (grid.Explores base ids) _ _ _ :=
      beside_keeps (Page.isDisplayed_keeps live) fun now =>
        (Page.browser.beside_alike now).isDisplayed row
    have measured : Keeps (grid.Explores base ids) _ _ _ :=
      beside_keeps (Page.rect_keeps live sized) fun now => (Page.browser.beside_alike now).rect row
    apply shows.bind
    intro answer same
    rw [displayed] at same
    subst same
    apply measured.bind
    intro box placed
    have higher := above element live
    apply Keeps.pure
    simp only [decide_eq_true_eq]
    omega
  apply (findAll_keeps viewed.rendered _).bind
  intro matched same
  rw [same, resolved]
  apply visible.bind
  rintro accepted rfl
  exact .pure rfl

theorem findRow_keeps {index : Nat} (startsWithin : grid.StartsWithin base index) (expected : RowSpec) :
    Keeps (grid.Explores base ids) (findRow Page.browser.besideGrid index expected)
      (fun _ => grid.ShowsRow base ids index expected) (grid.RowMissed base ids index expected) := by
  apply (rowScroller_keeps viewed).bind_sure
  intro rows rowsScroll
  apply (columnScroller_keeps viewed).bind_sure
  intro columns columnsScroll
  apply (scrollTo_keeps rowsScroll _ _).bind_sure
  intro _ _
  apply (scrollTo_keeps columnsScroll _ _).bind_sure
  intro _ _
  apply known_keeps.bind_sure
  rintro now ⟨columnIds, columnViewport, known, viewport⟩
  have searched : Keeps (grid.Explores base ids) _ _ _ :=
    untilPresent_keeps rowsScroll viewed.rendered sized stallsFit .down (grid.rowPath index)
  apply searched.attempt_bind
  case caught =>
    rintro error ⟨missing, notFound⟩
    exact .throw (.absent missing (by simp only [rowMissing, notFound, if_true]))
  case succeeded =>
    intro row first
    apply (findCells_keeps viewed sized stallsFit columnsScroll _ expected.cells).then
    · exact fun error missed => .differs (by simp [first]) missed
    intro _ shown
    obtain ⟨content, element, contentFirst, live, unanchored, above⟩ := startsWithin
    apply (contentBox_keeps viewed sized contentFirst live unanchored).bind_sure
    rintro box rfl
    have higher : ∀ rowElement, base.elements.get? row.id = some rowElement →
        rowElement.rect.y < element.rect.bottom := by
      intro rowElement there
      rw [(sized.fixed_kept live unanchored).bottom_eq]
      exact above row (List.mem_of_mem_head? first) rowElement there
    have probed : Keeps (grid.Explores base ids) _ _ _ := rowProbe_keeps viewed sized first higher
    apply (untilAccepted_keeps probed).bind_sure
    intro _ _
    exact .pure ⟨by simp [first], shown⟩

theorem findRows_keeps (virtualized : grid.virtualized = true) (index : Nat) (rows : List RowSpec)
    (startWithin : ∀ later < rows.length, grid.StartsWithin base (index + later)) :
    Keeps (grid.Explores base ids) (findRows Page.browser.besideGrid index rows)
      (fun _ => ∀ later expected, rows[later]? = some expected → grid.ShowsRow base ids (index + later) expected)
      fun _ => ¬∀ later expected, rows[later]? = some expected →
        grid.ShowsRow base ids (index + later) expected := by
  induction rows generalizing index with
  | nil => exact .pure (by simp)
  | cons expected others ih =>
      have within : ∀ later < others.length, grid.StartsWithin base (index + 1 + later) := by
        intro later inRange
        rw [show index + 1 + later = index + (later + 1) by omega]
        exact startWithin (later + 1) (Nat.succ_lt_succ inRange)
      apply known_keeps.bind_sure
      rintro now ⟨columnIds, columnViewport, known, viewport⟩
      simp only [virtualized, if_true]
      apply (findRow_keeps viewed sized stallsFit (startWithin 0 (Nat.succ_pos _)) expected).then
      · intro error missed every
        exact missed.not_shown (every 0 expected rfl)
      intro _ shown
      apply (ih (index + 1) within).weaken
      · intro _ rest later row there
        cases later with
        | zero =>
            cases there
            exact shown
        | succ later =>
            have next := rest later row there
            rwa [show index + 1 + later = index + (later + 1) by omega] at next
      · intro _ missing every
        apply missing
        intro later row there
        have next := every (later + 1) row there
        rwa [show index + (later + 1) = index + 1 + later by omega] at next

theorem refuseRow_keeps (virtualized : grid.virtualized = true) (index : Nat) :
    Keeps (grid.Explores base ids) (refuseRow Page.browser.besideGrid index)
      (fun _ => base.first? (grid.rowPath index) = none)
      fun _ => ¬base.first? (grid.rowPath index) = none := by
  apply known_keeps.bind_sure
  rintro now ⟨columnIds, columnViewport, known, viewport⟩
  simp only [virtualized, if_true]
  apply (rowScroller_keeps viewed).bind_sure
  intro rows rowsScroll
  have searched : Keeps (grid.Explores base ids) _ _ _ :=
    untilPresent_keeps rowsScroll viewed.rendered sized stallsFit .down (grid.rowPath index)
  apply searched.attempt_bind
  case caught =>
    rintro error ⟨missing, notFound⟩
    simp only [notFound, if_true]
    exact .pure missing
  case succeeded =>
    intro row first
    exact .throw (by simp [first])

end Page

/-! ## Main result -/

/-- Where every column has an id, the grid is shown if all its rows are, by these ids. -/
theorem shownOn_iff (columns : ∀ title ∈ grid.titles, (grid.columnIdOn base title).isSome) :
    grid.ShownOn base ↔
      (∀ index expected, grid.rows[index]? = some expected →
        grid.ShowsRow base (grid.discovered base grid.titles fun _ => none) index expected) ∧
      (grid.strict = true → base.first? (grid.rowPath grid.rows.length) = none) := by
  constructor
  · intro shown
    refine ⟨?_, shown.last⟩
    intro index expected there
    obtain ⟨inRange, _⟩ := List.getElem?_eq_some_iff.mp there
    refine ⟨shown.rows index inRange, ?_⟩
    intro cell mem
    have titled := shown.titles expected (List.mem_of_getElem? there) cell mem
    obtain ⟨id, known⟩ := Option.isSome_iff_exists.mp (columns cell.1 titled)
    exact ⟨id, by simp [discovered, titled, known], shown.cells index expected there cell mem id known⟩
  · rintro ⟨rows, last⟩
    have titled {title id : String} (known : grid.discovered base grid.titles (fun _ => none) title = some id) :
        title ∈ grid.titles ∧ grid.columnIdOn base title = some id := by
      unfold discovered at known
      split at known
      case isTrue mem => exact ⟨mem, known⟩
      case isFalse => cases known
    constructor
    case columns => exact columns
    case titles =>
      intro expected memExpected cell memCell
      obtain ⟨index, there⟩ := List.getElem?_of_mem memExpected
      obtain ⟨id, known, _⟩ := (rows index expected there).2 cell memCell
      exact (titled known).1
    case rows =>
      intro index inRange
      exact (rows index grid.rows[index] (List.getElem?_eq_getElem inRange)).1
    case cells =>
      intro index expected there cell mem id known
      obtain ⟨other, discovered, present⟩ := (rows index expected there).2 cell mem
      have same := (titled discovered).2
      rw [known, Option.some.injEq] at same
      rwa [same]
    case last => exact last

section Shown

variable (rendered : grid.RenderedOn base) (sized : base.Sized grid.settings.scroll.step)
  (stallsFit : grid.settings.scroll.maxStalls < 0x100000000)

include rendered sized stallsFit

theorem verify_concludes (virtualized : grid.virtualized = true) :
    Concludes (grid.Explores base fun _ => none) (verify Page.browser.besideGrid)
      (fun _ _ => grid.ShownOn base) fun _ _ => ¬grid.ShownOn base := by
  have discovers : Concludes (grid.Explores base fun _ => none) _ _ _ :=
    discoverColumns_concludes rendered.viewed sized stallsFit virtualized
  apply (discovers.weaken (fun _ _ ended => ended) fun _ _ missing (shown : grid.ShownOn base) =>
    missing shown.columns).bind
  intro _
  apply Concludes.given (∀ title ∈ grid.titles, (grid.columnIdOn base title).isSome)
    fun whole ended => ended.1
  intro columns
  have shownOn_iff := shownOn_iff columns
  suffices rest : Concludes (grid.Explores base (grid.discovered base grid.titles fun _ => none)) _ _ _ from
    rest.strengthen fun whole ended => ended.2
  apply known_keeps.bind_concludes (fun _ _ => False.elim)
  rintro now ⟨columnIds, columnViewport, known, viewport⟩
  have startWithin : ∀ later < grid.rows.length, grid.StartsWithin base (0 + later) := by
    intro later inRange
    rw [Nat.zero_add]
    exact rendered.startsWithin inRange
  apply (findRows_keeps rendered.viewed sized stallsFit virtualized 0 grid.rows startWithin).bind_concludes
  · intro error whole missing _ shown
    apply missing
    intro index expected there
    rw [Nat.zero_add]
    exact (shownOn_iff.mp shown).1 index expected there
  intro _ rows
  simp only [Nat.zero_add] at rows
  cases strict : grid.strict with
  | true =>
      simp only [if_true]
      apply Concludes.weaken (refuseRow_keeps rendered.viewed sized stallsFit virtualized grid.rows.length)
      · exact fun _ whole missing => shownOn_iff.mpr ⟨rows, fun _ => missing.1⟩
      · exact fun _ whole present shown => present.1 ((shownOn_iff.mp shown).2 strict)
  | false =>
      simp only [Bool.false_eq_true, if_false]
      exact .pure fun whole explores => shownOn_iff.mpr ⟨rows, by simp [strict]⟩

theorem findGrid_concludes (virtualized : grid.virtualized = true) :
    Concludes (grid.Explores base fun _ => none) Page.browser.findGrid
      (fun _ _ => grid.ShownOn base) fun _ _ => ¬grid.ShownOn base := by
  apply known_keeps.bind_concludes (fun _ _ => False.elim)
  rintro now ⟨columnIds, columnViewport, known, viewport⟩
  apply (find_sure rendered.rendered rendered.header).bind_concludes (fun _ _ => False.elim)
  intro header _
  simp only [virtualized, if_true]
  apply Concludes.underTimeouts _ (verify_concludes rendered sized stallsFit virtualized)
  · exact fun _ _ _ shown => shown
  · exact fun _ _ _ missing => missing
  · exact fun milliseconds => (setImplicitTimeout_explores milliseconds).weaken (fun _ _ ended => ended)
      fun _ _ => False.elim

end Shown

/-- A strict grid with one column and one row. -/
def stockGrid : Grid where
  titles := ["A"]
  rows := [.ofTexts [("A", "1")]]
  virtualized := true
  strict := true
  regions := .inside Html.html
  settings := {}

/-- A page that shows the grid in a box, scrolled down a little. -/
def stockPageIn (box : Rect) : Page :=
  let content : Handle := ⟨"content"⟩
  let header : Handle := ⟨"header"⟩
  let row : Handle := ⟨"row"⟩
  let cell : Handle := ⟨"cell"⟩
  let blank : Page := {}
  let withContent := blank.add content { rect := box, extent := ⟨0, 300⟩ }
  let withHeader := withContent.add header { attributes := .ofList [(columnIdAttribute, "a")] }
  let withRow := withHeader.add row { rect := ⟨0, 40, 400, 20⟩, anchor := some content }
  let withCell := withRow.add cell { anchor := some content }
  let placed := (withCell.register stockGrid.regions.content ⟨[content], none⟩).register
    stockGrid.regions.viewport ⟨[content], none⟩
  let headed := (placed.register (headerCell.inside stockGrid.regions.headers) ⟨[header], none⟩).register
    (stockGrid.headerPath "A") ⟨[header], none⟩
  let filled := (headed.register (stockGrid.rowPath 0) ⟨[row], none⟩).register
    ((cellPath (stockGrid.rowPath 0) "a").and (.hasAggregatedText "1")) ⟨[cell], none⟩
  ((Page.browser.scrollTo content none (some 70)).outcome filled).2

theorem stockPageIn_reachable (box : Rect) : (stockPageIn box).Reachable := by
  refine .change ?_ (.scrollTo _ _ _)
  iterate 6 refine .change ?_ (.registerXPath _ _)
  iterate 4 refine .change ?_ (.add _ _ rfl)
  exact .blank

def stockPage : Page :=
  stockPageIn ⟨0, 30, 400, 200⟩

/-- The same page with its content so far down that its lower edge leaves the 64-bit range. -/
def sunkenStockPage : Page :=
  stockPageIn ⟨0, 0x7FFFFFFFFFFFFFFF, 400, 200⟩

end Grid

end Locator
