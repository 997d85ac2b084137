import Locator.Proofs.Grid.Verification
import Mathlib.Order.Bounds.Defs

/-!
# Which row a search for a row finds

A search for a row goes through the indices in turn. It passes over a row with a cell that differs, and ends at a
row that has all cells as expected or at an index without a row. On a page that is rendered as a whole it does not
matter where the rows before have left it.
-/

namespace Locator

open Locator.Action

set_option autoImplicit false

namespace Grid

/-- The page is rendered as a whole, has the viewport of the grid, and all rows there are start above the lower edge
of the content. -/
structure LaidOutOn (grid : Grid) (page : Page) : Prop where
  viewed : grid.ViewedOn page
  rows : ∀ index, grid.StartsWithin page index

/-- A search ends at this index: there is no such row, or its cells are as expected. -/
def Settles (grid : Grid) (page : Page) (ids : String → Option String) (expected : RowSpec) (index : Nat) : Prop :=
  page.first? (grid.rowPath index) = none ∨
    ∀ cell ∈ expected.cells, ShowsCell page ids (grid.rowPath index) cell

/-- How a search of `count` indices from `first` on ends. -/
inductive RowsSearched (grid : Grid) (page : Page) (ids : String → Option String) (expected : RowSpec)
    (first count : Nat) : Except Error (Option Nat) → Prop where
  | found (index : Nat) (reached : first ≤ index) (below : index < first + count)
      (passed : ∀ earlier, first ≤ earlier → earlier < index → ¬grid.Settles page ids expected earlier)
      (shown : grid.ShowsRow page ids index expected) :
      RowsSearched grid page ids expected first count (.ok (some index))
  | absent (index : Nat) (reached : first ≤ index) (below : index < first + count)
      (passed : ∀ earlier, first ≤ earlier → earlier < index → ¬grid.Settles page ids expected earlier)
      (missing : page.first? (grid.rowPath index) = none) (error : Error)
      (outOfBounds : error.cause = .indexOutOfBounds) :
      RowsSearched grid page ids expected first count (.error error)
  | exhausted
      (passed : ∀ earlier, first ≤ earlier → earlier < first + count → ¬grid.Settles page ids expected earlier) :
      RowsSearched grid page ids expected first count (.ok none)

/-- The search fails for this reason. -/
def FailsAs (cause : Cause) (result : Except Error Nat) : Prop :=
  ∃ error, result = .error error ∧ error.cause = cause

/-- The result is the least index at which a search ends, if that is below the limit and there is such a row. It
fails as out of bounds if there is no such row, and as not found if the index is not below the limit or there is
none. -/
structure FindsLeast (grid : Grid) (page : Page) (ids : String → Option String) (expected : RowSpec)
    (result : Except Error Nat) : Prop where
  found : ∀ least, IsLeast {index | grid.Settles page ids expected index} least →
    least < grid.settings.rowSearchLimit → (page.first? (grid.rowPath least)).isSome → result = .ok least
  absent : ∀ least, IsLeast {index | grid.Settles page ids expected index} least →
    least < grid.settings.rowSearchLimit → page.first? (grid.rowPath least) = none → FailsAs .indexOutOfBounds result
  beyond : ∀ least, IsLeast {index | grid.Settles page ids expected index} least →
    grid.settings.rowSearchLimit ≤ least → FailsAs .notFound result
  never : (∀ index, ¬grid.Settles page ids expected index) → FailsAs .notFound result

/-- The ids of all columns are known, or no id is, and they will be looked for first. -/
def Ready (grid : Grid) (base : Page) (ids : String → Option String) (whole : Grid × Page) : Prop :=
  grid.Explores base (grid.discovered base grid.titles ids) whole ∨
    whole.1.columnIds.entries.isEmpty = true ∧ grid.Explores base ids whole

/-- Nothing has been learnt, and the page is as it was but for being scrolled. -/
def Unchanged (grid : Grid) (base : Page) (whole : Grid × Page) : Prop :=
  whole.1 = grid ∧ base.Like whole.2

variable {grid : Grid} {base : Page} {ids : String → Option String} {expected : RowSpec}

/-! ## Searching row by row -/

theorem RowsSearched.next {first count : Nat} {result : Except Error (Option Nat)}
    (searched : grid.RowsSearched base ids expected (first + 1) count result)
    (differs : ¬grid.Settles base ids expected first) :
    grid.RowsSearched base ids expected first (count + 1) result := by
  have passes {limit : Nat}
      (passed : ∀ earlier, first + 1 ≤ earlier → earlier < limit → ¬grid.Settles base ids expected earlier)
      (earlier : Nat) (reached : first ≤ earlier) (below : earlier < limit) :
      ¬grid.Settles base ids expected earlier := by
    rcases Nat.eq_or_lt_of_le reached with rfl | later
    · exact differs
    · exact passed earlier later below
  cases searched with
  | found index reached below passed shown =>
      exact .found index (by omega) (by omega) (passes passed) shown
  | absent index reached below passed missing error outOfBounds =>
      exact .absent index (by omega) (by omega) (passes passed) missing error outOfBounds
  | exhausted passed =>
      exact .exhausted fun earlier reached below => passes passed earlier reached (by omega)

/-- An index at which a search ends after it has passed over all before is the least one. -/
theorem Settles.eq_least {index least : Nat} (settles : grid.Settles base ids expected index)
    (passed : ∀ earlier, 0 ≤ earlier → earlier < index → ¬grid.Settles base ids expected earlier)
    (isLeast : IsLeast {index | grid.Settles base ids expected index} least) : least = index := by
  apply Nat.le_antisymm (isLeast.2 settles)
  by_contra before
  exact passed least (Nat.zero_le _) (by omega) isLeast.1

section FindsLeast

variable {result : Except Error (Option Nat)}
  (searched : grid.RowsSearched base ids expected 0 grid.settings.rowSearchLimit result)

include searched

theorem RowsSearched.findsLeast_of_some {index : Nat} (ended : result = .ok (some index)) :
    grid.FindsLeast base ids expected (.ok index) := by
  cases searched with
  | absent => cases ended
  | exhausted => cases ended
  | found _ _ below passed shown =>
      cases ended
      have settles : grid.Settles base ids expected index := .inr shown.2
      constructor
      case found =>
        intro least isLeast _ _
        rw [settles.eq_least passed isLeast]
      case absent =>
        intro least isLeast _ missing
        have present := shown.1
        rw [settles.eq_least passed isLeast] at missing
        simp [missing] at present
      case beyond =>
        intro least isLeast above
        rw [settles.eq_least passed isLeast] at above
        omega
      case never => exact fun never => absurd settles (never index)

theorem RowsSearched.findsLeast_of_error {error : Error} (ended : result = .error error) :
    grid.FindsLeast base ids expected (.error error) := by
  cases searched with
  | found => cases ended
  | exhausted => cases ended
  | absent index _ below passed missing _ outOfBounds =>
      cases ended
      have settles : grid.Settles base ids expected index := .inl missing
      constructor
      case found =>
        intro least isLeast _ present
        rw [settles.eq_least passed isLeast] at present
        simp [missing] at present
      case absent => exact fun least isLeast _ _ => ⟨error, rfl, outOfBounds⟩
      case beyond =>
        intro least isLeast above
        rw [settles.eq_least passed isLeast] at above
        omega
      case never => exact fun never => absurd settles (never index)

theorem RowsSearched.findsLeast_of_none (ended : result = .ok none) {error : Error}
    (notFound : error.cause = .notFound) :
    grid.FindsLeast base ids expected (.error error) := by
  cases searched with
  | found => cases ended
  | absent => cases ended
  | exhausted passed =>
      have far {least : Nat} (isLeast : IsLeast {index | grid.Settles base ids expected index} least) :
          ¬least < grid.settings.rowSearchLimit :=
        fun below => passed least (Nat.zero_le _) (by omega) isLeast.1
      constructor
      case found => exact fun least isLeast below => absurd below (far isLeast)
      case absent => exact fun least isLeast below => absurd below (far isLeast)
      case beyond => exact fun _ _ _ => ⟨error, rfl, notFound⟩
      case never => exact fun _ => ⟨error, rfl, notFound⟩

end FindsLeast

section Search

variable (laidOut : grid.LaidOutOn base) (sized : base.Sized grid.settings.scroll.step)
  (stallsFit : grid.settings.scroll.maxStalls < 0x100000000)

include laidOut sized stallsFit

theorem searchRows_keeps (titles : ∀ cell ∈ expected.cells, (ids cell.1).isSome) (count first : Nat) :
    Keeps (grid.Explores base ids) (searchRows Page.browser.besideGrid expected count first)
      (fun found => grid.RowsSearched base ids expected first count (.ok found))
      fun error => grid.RowsSearched base ids expected first count (.error error) := by
  induction count generalizing first with
  | zero => exact .pure (.exhausted fun earlier reached below => by omega)
  | succ count ih =>
      apply (findRow_keeps laidOut.viewed sized stallsFit (laidOut.rows first) expected).attempt_bind
      case succeeded =>
        intro _ shown
        exact .pure (.found first (Nat.le_refl _) (by omega) (fun earlier reached below => by omega) shown)
      case caught =>
        intro error missed
        cases missed with
        | absent missing outOfBounds =>
            have other : error.isNotFound = false := by simp [Error.isNotFound, outOfBounds]
            simp only [other, Bool.false_eq_true, if_false]
            exact .throw (.absent first (Nat.le_refl _) (by omega) (fun earlier reached below => by omega) missing error
              outOfBounds)
        | differs present missed =>
            -- All columns are known, so what failed is a search for a cell, and the next row is tried.
            simp only [missed.2 titles, if_true]
            have differs : ¬grid.Settles base ids expected first := by
              rintro (missing | every)
              · simp [missing] at present
              · exact missed.1 every
            exact (ih (first + 1)).weaken (fun _ later => later.next differs) fun _ later => later.next differs

/-! ## Columns first -/

omit laidOut sized stallsFit in
theorem discovered_twice {titles : List String} :
    grid.discovered base titles (grid.discovered base titles ids) = grid.discovered base titles ids := by
  funext title
  unfold discovered
  split <;> rfl

omit laidOut sized stallsFit in
theorem Ready.same {whole : Grid × Page} (ready : grid.Ready base ids whole) :
    whole.1.virtualized = grid.virtualized ∧ whole.1.settings = grid.settings := by
  obtain ⟨known, learnt⟩ : ∃ known, grid.Learnt base known whole.1 := by
    rcases ready with explores | ⟨_, explores⟩
    · exact ⟨_, explores.1⟩
    · exact ⟨_, explores.1⟩
  cases whole
  cases learnt
  exact ⟨rfl, rfl⟩

omit laidOut sized stallsFit in
theorem setImplicitTimeout_ready (milliseconds : Nat) :
    Concludes (grid.Ready base ids) (Page.browser.besideGrid.setImplicitTimeout milliseconds)
      (fun _ => grid.Ready base ids) fun _ _ => False := by
  rintro whole (explores | ⟨nothing, explores⟩)
  · exact .inl (setImplicitTimeout_explores milliseconds whole explores)
  · exact .inr ⟨nothing, setImplicitTimeout_explores milliseconds whole explores⟩

variable (virtualized : grid.virtualized = true)

include virtualized

theorem ensureColumns_concludes (columns : ∀ title ∈ grid.titles, (grid.columnIdOn base title).isSome) :
    Concludes (grid.Ready base ids) (ensureColumns Page.browser.besideGrid)
      (fun _ => grid.Explores base (grid.discovered base grid.titles ids)) fun _ _ => False := by
  have discovers (ids : String → Option String) :
      Concludes (grid.Explores base ids) (discoverColumns Page.browser.besideGrid)
        (fun _ => grid.Explores base (grid.discovered base grid.titles ids)) fun _ _ => False :=
    (discoverColumns_concludes laidOut.viewed sized stallsFit virtualized).weaken (fun _ _ ended => ended.2)
      fun _ _ missing => missing columns
  intro whole ready
  rw [ensureColumns, outcome_bind_of_ok (outcome_known whole)]
  cases nothing : whole.1.columnIds.entries.isEmpty with
  | false =>
      rcases ready with explores | ⟨isEmpty, _⟩
      · exact explores
      · simp [nothing] at isEmpty
  | true =>
      simp only [if_true]
      rcases ready with explores | ⟨_, explores⟩
      · have again := discovers (grid.discovered base grid.titles ids) whole explores
        rwa [discovered_twice] at again
      · exact discovers ids whole explores

theorem searchRow_concludes (columns : ∀ title ∈ grid.titles, (grid.columnIdOn base title).isSome)
    (titles : ∀ cell ∈ expected.cells, (grid.discovered base grid.titles ids cell.1).isSome) :
    Concludes (grid.Ready base ids)
      (searchRow Page.browser.besideGrid expected grid.settings.rowSearchLimit)
      (fun index _ => grid.FindsLeast base (grid.discovered base grid.titles ids) expected (.ok index))
      fun error _ => grid.FindsLeast base (grid.discovered base grid.titles ids) expected (.error error) := by
  have ensures : Concludes (grid.Ready base ids) (ensureColumns Page.browser.besideGrid) _ _ :=
    ensureColumns_concludes laidOut sized stallsFit virtualized columns
  apply (ensures.weaken (fun _ _ ended => ended) fun _ _ => False.elim).bind
  intro _
  apply (searchRows_keeps laidOut sized stallsFit titles _ 0).bind_concludes
  · exact fun error whole searched _ => searched.findsLeast_of_error rfl
  intro found searched
  cases found with
  | some index => exact .pure fun _ _ => searched.findsLeast_of_some rfl
  | none => exact .throw fun _ _ => searched.findsLeast_of_none rfl rfl

theorem findRowIndex_concludes (columns : ∀ title ∈ grid.titles, (grid.columnIdOn base title).isSome)
    (titles : ∀ cell ∈ expected.cells, (grid.discovered base grid.titles ids cell.1).isSome) :
    Concludes (grid.Ready base ids) (Page.browser.findRowIndex expected)
      (fun index _ => grid.FindsLeast base (grid.discovered base grid.titles ids) expected (.ok index))
      fun error _ => grid.FindsLeast base (grid.discovered base grid.titles ids) expected (.error error) := by
  intro whole ready
  obtain ⟨sameVirtualized, sameSettings⟩ := ready.same
  have searches := searchRow_concludes laidOut sized stallsFit virtualized columns titles
  have found := Concludes.underTimeouts
    (fun milliseconds => (setImplicitTimeout_ready milliseconds).weaken (fun _ _ ended => ended) fun _ _ => False.elim)
    searches (fun _ _ _ found => found) fun _ _ _ failed => failed
  rw [Browser.findRowIndex, outcome_bind_of_ok (outcome_known whole)]
  simp only [sameVirtualized, sameSettings, virtualized, if_true]
  exact found whole ready

/-! ## The mapping that was found first -/

theorem findColumnIds_concludes :
    Concludes (grid.Explores base ids) Page.browser.findColumnIds
      (fun found whole => (∀ title ∈ grid.titles, (grid.columnIdOn base title).isSome) ∧
        whole.1.columnIds = found ∧ grid.Explores base (grid.discovered base grid.titles ids) whole)
      fun _ _ => True := by
  have columns : Concludes (grid.Explores base ids) (discoverColumns Page.browser.besideGrid) _ _ :=
    discoverColumns_concludes laidOut.viewed sized stallsFit virtualized
  have discovers := columns.underTimeouts
    (fun milliseconds =>
      (setImplicitTimeout_explores milliseconds).weaken (fun _ _ ended => ended) fun _ _ => False.elim)
    (fun milliseconds _ whole ended => ⟨ended.1, setImplicitTimeout_explores milliseconds whole ended.2⟩)
    fun _ _ _ failed => failed
  apply (discovers.weaken (fun _ _ ended => ended) fun _ _ _ => trivial).bind
  rintro _ whole ⟨columns, explores⟩
  exact ⟨columns, rfl, explores⟩

omit sized stallsFit in
/-- The mapping cannot be found where the container that is said to scroll columns is not there. -/
theorem findColumnIds_viewport {path : Path} (said : grid.columnViewport = some path) :
    Concludes (grid.Unchanged base) Page.browser.findColumnIds (fun _ _ => (base.first? path).isSome)
      fun _ _ => True := by
  have asks : Keeps (grid.Unchanged base) known (fun now => now = grid) fun _ => False :=
    fun whole kept => ⟨kept.1, kept⟩
  have container : Keeps (grid.Unchanged base) (columnContainer Page.browser.besideGrid)
      (fun container => container = path) fun _ => False := by
    apply asks.bind
    rintro now rfl
    simp only [said]
    exact .pure rfl
  have located : Keeps (grid.Unchanged base) (Page.browser.besideGrid.locate (.path path)) _ _ :=
    beside_keeps (P := (· = grid)) (laidOut.viewed.rendered.find_keeps path) fun now =>
      (Page.browser.beside_alike now).find path
  -- Once the container has been found, whatever comes after does not matter.
  have later {Value Result : Type} {action : GridAction Page Value} {next : Value → GridAction Page Result}
      (first : Concludes (grid.Unchanged base) action (fun _ _ => (base.first? path).isSome) fun _ _ => True) :
      Concludes (grid.Unchanged base) (action >>= next) (fun _ _ => (base.first? path).isSome) fun _ _ => True := by
    apply first.bind
    intro value
    exact Concludes.given _ (fun _ present => present) .of_fact
  have scroller : Concludes (grid.Unchanged base) (columnScroller Page.browser.besideGrid)
      (fun _ _ => (base.first? path).isSome) fun _ _ => True := by
    apply container.bind_concludes fun _ _ _ _ => trivial
    rintro _ rfl
    apply later
    apply located.bind_concludes fun _ _ _ _ => trivial
    intro handle found
    exact .pure fun _ _ => by simp [found]
  have discovers : Concludes (grid.Unchanged base) (discoverColumns Page.browser.besideGrid)
      (fun _ _ => (base.first? path).isSome) fun _ _ => True := by
    apply asks.bind_concludes fun _ _ _ _ => trivial
    rintro now rfl
    simp only [virtualized, if_true, map_eq_pure_bind]
    exact later (later scroller)
  have sets (milliseconds : Nat) : Keeps (grid.Unchanged base)
      (Page.browser.besideGrid.setImplicitTimeout milliseconds) (fun _ => True) fun _ => False :=
    beside_keeps (P := (· = grid)) (Page.setImplicitTimeout_keeps milliseconds) (Action.beside_alike _)
  apply later
  apply discovers.underTimeouts
  · exact fun milliseconds => Concludes.weaken (sets milliseconds) (fun _ _ ended => ended.2) fun _ _ _ => trivial
  · exact fun _ _ _ present => present
  · exact fun _ _ _ _ => trivial

end Search

theorem Learnt.ids_eq {now : Grid} (learnt : grid.Learnt base ids now) : now.columnIds.get? = ids := by
  cases learnt
  assumption

/-- A grid with one column. -/
def ledgerGrid : Grid where
  titles := ["A"]
  rows := []
  virtualized := true
  strict := false
  regions := .inside Html.html
  settings := {}

/-- A page that shows two rows of the grid in a box. -/
def ledgerPageIn (box : Rect) : Page :=
  let content : Handle := ⟨"content"⟩
  let blank : Page := {}
  let withContent := blank.add content { rect := box, extent := ⟨0, 300⟩ }
  let withHeader := withContent.add ⟨"header"⟩ { attributes := .ofList [(columnIdAttribute, "a")] }
  let withRows := (withHeader.add ⟨"first"⟩ { rect := ⟨0, 40, 400, 20⟩, anchor := some content }).add ⟨"second"⟩
    { rect := ⟨0, 60, 400, 20⟩, anchor := some content }
  let withCell := withRows.add ⟨"cell"⟩ { anchor := some content }
  let placed := (withCell.register ledgerGrid.regions.content ⟨[content], none⟩).register
    ledgerGrid.regions.viewport ⟨[content], none⟩
  let headed := placed.register (ledgerGrid.headerPath "A") ⟨[⟨"header"⟩], none⟩
  let filled := (headed.register (ledgerGrid.rowPath 0) ⟨[⟨"first"⟩], none⟩).register
    (ledgerGrid.rowPath 1) ⟨[⟨"second"⟩], none⟩
  filled.register ((cellPath (ledgerGrid.rowPath 1) "a").and (.hasAggregatedText "2")) ⟨[⟨"cell"⟩], none⟩

def ledgerPage : Page :=
  ledgerPageIn ⟨0, 30, 400, 200⟩

theorem ledgerPageIn_reachable (box : Rect) : (ledgerPageIn box).Reachable := by
  iterate 6 refine .change ?_ (.registerXPath _ _)
  iterate 5 refine .change ?_ (.add _ _ rfl)
  exact .blank

theorem ledgerPage_laidOut : ledgerGrid.LaidOutOn ledgerPage := by
  refine ⟨⟨.of_entries (by decide +kernel), by decide +kernel⟩, fun index => ?_⟩
  refine ⟨⟨"content"⟩, { rect := ⟨0, 30, 400, 200⟩, extent := ⟨0, 300⟩ }, by decide +kernel, by decide +kernel, rfl, ?_⟩
  intro row _ rowElement live
  have all : ∀ entry ∈ ledgerPage.elements.entries, entry.2.rect.y < 230 := by decide +kernel
  exact all _ (Keyed.mem_of_get? live)

/-- Wherever the content is, the second row is the first with the cell. -/
theorem ledgerPageIn_isLeast (box : Rect) :
    IsLeast {index | ledgerGrid.Settles (ledgerPageIn box) (Keyed.ofList [("A", "a")]).get?
      (.ofTexts [("A", "2")]) index} 1 := by
  have first (path : Path) : (ledgerPageIn box).first? path = ledgerPage.first? path := rfl
  constructor
  · refine .inr fun cell mem => ⟨"a", ?_⟩
    obtain rfl := List.mem_singleton.mp mem
    rw [first]
    exact ⟨by decide, by decide +kernel⟩
  · intro index settles
    by_contra before
    obtain rfl : index = 0 := by omega
    rcases settles with missing | shown
    · rw [first] at missing
      exact absurd missing (by decide +kernel)
    · obtain ⟨id, known, present⟩ := shown ("A", .hasAggregatedText "2") (List.mem_singleton.mpr rfl)
      obtain rfl : "a" = id := Option.some.inj known
      rw [first] at present
      exact absurd present (by decide +kernel)

/-- The same page with its content so far down that its lower edge leaves the 64-bit range. -/
def sunkenLedgerPage : Page :=
  ledgerPageIn ⟨0, 0x7FFFFFFFFFFFFFFF, 400, 200⟩

end Grid

end Locator
