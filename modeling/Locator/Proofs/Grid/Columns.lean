import Locator.Proofs.Grid.Confined
import Locator.Proofs.Grid.Timeouts
import Locator.Proofs.Page.Operations
import Mathlib.Control.Monad.Basic

/-!
# Which column ids are known

The search for column ids keeps each id as soon as it is found. When it fails, the ids of the titles before
the one in question stay, and as later operations search again only if no id is known at all, they meet
titles without an id.
-/

namespace Locator

open Locator.Action

set_option autoImplicit false

variable {State Value : Type}

/-! ## Ids for the first titles -/

/-- The ids with those of the titles, as many as there are. -/
def Keyed.withEach (ids : Keyed String) : (titles found : List String) → Keyed String
  | title :: titles, id :: found => (ids.insert title id).withEach titles found
  | _, _ => ids

theorem Keyed.withEach_nil (ids : Keyed String) (titles : List String) : ids.withEach titles [] = ids := by
  cases titles <;> rfl

/-- The known titles are those known before and the first ones. -/
theorem Keyed.isSome_withEach_iff (ids : Keyed String) (titles found : List String) (title : String)
    (fits : found.length ≤ titles.length) :
    ((ids.withEach titles found).get? title).isSome ↔
      (ids.get? title).isSome ∨ title ∈ titles.take found.length := by
  induction titles generalizing ids found with
  | nil =>
      cases found with
      | nil => simp [withEach]
      | cons id found => simp at fits
  | cons first titles ih =>
      cases found with
      | nil => simp [withEach]
      | cons id found =>
          simp only [List.length_cons, Nat.add_le_add_iff_right] at fits
          rw [withEach, ih (ids.insert first id) found fits, get?_insert]
          by_cases same : first = title
          · simp [same]
          · simp [same, Ne.symm same]

namespace Grid

/-- The grid when these ids are known, wherever its columns scroll. -/
inductive Knowing (grid : Grid) (ids : Keyed String) : Grid → Prop where
  | mk (columnViewport : Option Path) : Knowing grid ids { grid with columnIds := ids, columnViewport }

/-- The grid when the first `count` titles have been looked for, with these ids known before. -/
def Finds (grid : Grid) (ids : Keyed String) (titles : List String) (count : Nat) (now : Grid) : Prop :=
  ∃ found : List String, found.length = count ∧ grid.Knowing (ids.withEach titles found) now

/-- The grid when some of the first titles have been looked for, but for at most `limit` of them. -/
def FindsUpTo (grid : Grid) (ids : Keyed String) (titles : List String) (limit : Nat) (now : Grid) : Prop :=
  ∃ count ≤ limit, grid.Finds ids titles count now

variable {grid now : Grid} {ids : Keyed String} {title id : String} {titles : List String} {count limit : Nat}

theorem Knowing.finds (knowing : grid.Knowing ids now) : grid.Finds ids titles 0 now :=
  ⟨[], rfl, by rwa [Keyed.withEach_nil]⟩

theorem Finds.cons (finds : grid.Finds (ids.insert title id) titles count now) :
    grid.Finds ids (title :: titles) (count + 1) now := by
  obtain ⟨found, length, knowing⟩ := finds
  exact ⟨id :: found, by rw [List.length_cons, length], knowing⟩

theorem Finds.upTo (finds : grid.Finds ids titles limit now) : grid.FindsUpTo ids titles limit now :=
  ⟨limit, Nat.le_refl limit, finds⟩

theorem FindsUpTo.cons (finds : grid.FindsUpTo (ids.insert title id) titles limit now) :
    grid.FindsUpTo ids (title :: titles) (limit + 1) now := by
  obtain ⟨count, upTo, finds⟩ := finds
  exact ⟨count + 1, Nat.succ_le_succ upTo, finds.cons⟩

theorem Knowing.findsUpTo (knowing : grid.Knowing ids now) : grid.FindsUpTo ids titles limit now :=
  ⟨0, Nat.zero_le limit, knowing.finds⟩

variable {browser : Browser State} {bad : Error → Prop}

theorem besideGrid_confined (fails : browser.Confined (fun _ => True) bad) (holds : Grid → Prop) :
    browser.besideGrid.Confined (fun whole => holds whole.1) bad := by
  have part {Value : Type} {action : Action State Value} (confined : Confined (fun _ => True) action bad) :
      Confined (fun whole : Grid × State => holds whole.1)
        (action.onPart Prod.snd fun state (whole : Grid × State) => (whole.1, state)) bad := by
    apply Concludes.beside (Action.beside_alike action)
    intro grid
    apply Concludes.given (holds grid) fun _ start => start
    intro start
    apply (confined.strengthen fun _ _ => trivial).weaken
    · exact fun value state _ => ⟨trivial, start⟩
    · exact fun error state ended => ⟨ended.1, start⟩
  constructor
  case find => exact fun path => part (fails.find path)
  case findAll => exact fun path => part (fails.findAll path)
  case click => exact fun handle => part (fails.click handle)
  case sendKeys => exact fun handle keys => part (fails.sendKeys handle keys)
  case clear => exact fun handle => part (fails.clear handle)
  case attribute? => exact fun handle name => part (fails.attribute? handle name)
  case rect => exact fun handle => part (fails.rect handle)
  case isDisplayed => exact fun handle => part (fails.isDisplayed handle)
  case scrollBy => exact fun handle dx dy => part (fails.scrollBy handle dx dy)
  case scrollTo => exact fun handle x y => part (fails.scrollTo handle x y)
  case scrollOffset => exact fun handle => part (fails.scrollOffset handle)
  case setImplicitTimeout => exact fun milliseconds => part (fails.setImplicitTimeout milliseconds)

section Discovery

variable (fails : browser.Confined (fun _ => True) bad)
  (others : ∀ error, error.cause ≠ .invalidArgument → bad error)

include fails others

omit fails in
theorem knowing_allows :
    Allows (fun whole : Grid × State => grid.Knowing ids whole.1) bad := by
  constructor
  · exact others
  · rintro ⟨now, state⟩ path ⟨columnViewport⟩
    exact .mk (some path)

omit fails in
theorem knowing_allowsCells (unknown : ∀ title, ids.get? title = none → bad (unknownColumn title)) :
    AllowsCells (fun whole : Grid × State => grid.Knowing ids whole.1) bad := by
  refine ⟨knowing_allows others, ?_⟩
  rintro ⟨now, state⟩ title ⟨columnViewport⟩ missing
  exact unknown title missing

variable (grid) in
/-- An id is kept as soon as it is found. -/
theorem discoverTitles_finds (columns : Option Scroller) (titles : List String) (ids : Keyed String) :
    Concludes (fun whole => grid.Knowing ids whole.1) (discoverTitles browser.besideGrid columns titles)
      (fun _ whole => grid.Finds ids titles titles.length whole.1)
      fun error whole => bad error ∧ grid.FindsUpTo ids titles titles.length whole.1 := by
  induction titles generalizing ids with
  | nil => exact .pure fun whole knowing => knowing.finds
  | cons title titles ih =>
      have confined := besideGrid_confined fails (grid.Knowing ids)
      have allows : Allows (fun whole : Grid × State => grid.Knowing ids whole.1) bad :=
        knowing_allows others
      have failed (error : Error) (whole : Grid × State) (holds : bad error)
          (knowing : grid.Knowing ids whole.1) :
          bad error ∧ grid.FindsUpTo ids (title :: titles) (title :: titles).length whole.1 :=
        ⟨holds, knowing.findsUpTo⟩
      apply known_confined.bind_concludes failed
      intro now _
      apply (findHeader_confined allows confined columns _).bind_concludes failed
      intro header _
      apply (confined.attribute? header columnIdAttribute).bind_concludes failed
      intro value _
      cases value with
      | none => exact .throw fun whole knowing => failed _ whole (others _ (by simp)) knowing
      | some id =>
          have learns : Concludes (fun whole => grid.Knowing ids whole.1)
              (learn fun grid => { grid with columnIds := grid.columnIds.insert title id })
              (fun _ whole => grid.Knowing (ids.insert title id) whole.1)
              fun error (whole : Grid × State) => bad error ∧
                grid.FindsUpTo ids (title :: titles) (title :: titles).length whole.1 := by
            rintro ⟨now, state⟩ ⟨columnViewport⟩
            exact .mk columnViewport
          have rest := (ih (ids.insert title id)).weaken (fun _ whole finds => finds.cons)
            fun error whole ended => And.intro ended.1 ended.2.cons
          apply learns.bind
          intro _
          cases columns with
          | none => exact rest
          | some scroller =>
              have next := besideGrid_confined fails (grid.Knowing (ids.insert title id))
              apply (next.scrollTo scroller.container _ _).bind_concludes
              · exact fun error whole holds knowing => ⟨holds, knowing.findsUpTo.cons⟩
              · exact fun _ _ => rest

end Discovery

/-! ## Actions that search for ids -/

/-- The ids when the first `limit` titles have been looked for. -/
def Reaches (grid : Grid) (limit : Nat) (ids : Keyed String) : Prop :=
  ∃ found : List String, found.length = limit ∧ ids = grid.columnIds.withEach grid.titles found

/-- The action looks for the first `limit` titles, keeps the ids it finds even if it fails, and fails as in
`bad`. -/
def Finding (grid : Grid) (limit : Nat) (action : GridAction State Value) (bad : Error → Prop) : Prop :=
  Concludes (fun whole => grid.Knowing grid.columnIds whole.1) action
    (fun _ whole => grid.Finds grid.columnIds grid.titles limit whole.1)
    fun error whole => bad error ∧ grid.FindsUpTo grid.columnIds grid.titles limit whole.1

variable {Result : Type} {action : GridAction State Value} {next : Value → GridAction State Result}

theorem Finding.of_confined
    (confined : Confined (fun whole : Grid × State => grid.Knowing grid.columnIds whole.1) action bad) :
    grid.Finding 0 action bad := by
  apply Concludes.weaken confined
  · exact fun _ whole ended => ended.2.finds
  · exact fun error whole ended => ⟨ended.1, ended.2.findsUpTo⟩

theorem Finding.after
    (confined : Confined (fun whole : Grid × State => grid.Knowing grid.columnIds whole.1) action bad)
    (later : ∀ value, grid.Finding limit (next value) bad) : grid.Finding limit (action >>= next) bad :=
  confined.bind_concludes (fun _ _ holds knowing => ⟨holds, knowing.findsUpTo⟩) fun value _ => later value

theorem Finding.known {next : Grid → GridAction State Result}
    (later : ∀ columnViewport, grid.Finding limit (next { grid with columnViewport }) bad) :
    grid.Finding limit (known >>= next) bad := by
  apply Keeps.bind_concludes known_reads fun _ _ holds knowing => ⟨holds, knowing.findsUpTo⟩
  rintro now ⟨state, ⟨columnViewport⟩⟩
  exact later columnViewport

theorem Finding.bind (first : grid.Finding limit action bad)
    (later : ∀ ids, grid.Reaches limit ids → ∀ value,
      Confined (fun whole : Grid × State => grid.Knowing ids whole.1) (next value) bad) :
    grid.Finding limit (action >>= next) bad := by
  apply Concludes.bind first
  rintro value whole ⟨found, length, knowing⟩
  have finds (now : Grid) (knowing : grid.Knowing (grid.columnIds.withEach grid.titles found) now) :
      grid.Finds grid.columnIds grid.titles limit now :=
    ⟨found, length, knowing⟩
  apply Concludes.weaken (later _ ⟨found, length, rfl⟩ value)
  · exact fun _ whole ended => finds whole.1 ended.2
  · exact fun error whole ended => ⟨ended.1, (finds whole.1 ended.2).upTo⟩
  · exact knowing

section Searching

variable (fails : browser.Confined (fun _ => True) bad)
  (others : ∀ error, error.cause ≠ .invalidArgument → bad error)

include fails

theorem Finding.underTimeouts (finding : grid.Finding limit action bad) :
    grid.Finding limit (underTimeouts browser.besideGrid action) bad := by
  apply Finding.known
  intro columnViewport
  have confined := besideGrid_confined fails (grid.Knowing grid.columnIds)
  have lowers : Concludes (fun whole => grid.Knowing grid.columnIds whole.1)
      (browser.besideGrid.setImplicitTimeout grid.settings.timeouts.during)
      (fun _ whole => grid.Knowing grid.columnIds whole.1)
      fun error whole => bad error ∧ grid.FindsUpTo grid.columnIds grid.titles limit whole.1 :=
    Concludes.weaken (confined.setImplicitTimeout _) (fun _ whole ended => ended.2)
      fun error whole ended => ⟨ended.1, ended.2.findsUpTo⟩
  apply lowers.withTimeout finding
  · exact fun _ whole finds => finds
  · exact fun error whole ended => ended

include others

theorem discoverColumns_finding : grid.Finding grid.titles.length (discoverColumns browser.besideGrid) bad := by
  have confined := besideGrid_confined fails (grid.Knowing grid.columnIds)
  have finds (columns : Option Scroller) :
      grid.Finding grid.titles.length (discoverTitles browser.besideGrid columns grid.titles) bad :=
    discoverTitles_finds grid fails others columns grid.titles grid.columnIds
  apply Finding.known
  intro columnViewport
  cases grid.virtualized with
  | true =>
      simp only [if_true, map_eq_pure_bind]
      have scroller := columnScroller_confined (knowing_allows others) confined
      exact .after (scroller.bind fun scroller => .pure (some scroller)) finds
  | false =>
      simp only [Bool.false_eq_true, if_false]
      exact .after (.pure none) finds

theorem ensureColumns_finding :
    grid.Finding (if grid.columnIds.entries.isEmpty then grid.titles.length else 0)
      (ensureColumns browser.besideGrid) bad := by
  apply Finding.known
  intro columnViewport
  cases grid.columnIds.entries.isEmpty with
  | true => exact discoverColumns_finding fails others
  | false => exact .of_confined (.pure ())

theorem revealHeader_finding (title : String) : grid.Finding 0 (browser.revealHeader title) bad := by
  have confined := besideGrid_confined fails (grid.Knowing grid.columnIds)
  exact .underTimeouts fails (.of_confined (revealHeader_confined (knowing_allows others) confined title))

section Cells

variable (unknown : ∀ ids title, grid.Reaches limit ids → ids.get? title = none → bad (unknownColumn title))

include unknown

/-- What comes after the search may use the ids it has found. -/
theorem Finding.bind_cells {action : GridAction State Unit} {next : Unit → GridAction State Value}
    (first : grid.Finding limit action bad)
    (later : ∀ ids, AllowsCells (fun whole : Grid × State => grid.Knowing ids whole.1) bad →
      browser.besideGrid.Confined (fun whole => grid.Knowing ids whole.1) bad →
      Confined (fun whole : Grid × State => grid.Knowing ids whole.1) (next ()) bad) :
    grid.Finding limit (action >>= next) bad := by
  apply first.bind
  intro ids reaches _
  have reports (title : String) := unknown ids title reaches
  exact later ids (knowing_allowsCells others reports) (besideGrid_confined fails _)

theorem verify_finding (all : limit = grid.titles.length) : grid.Finding limit (verify browser.besideGrid) bad := by
  apply Finding.bind_cells fails others unknown (all ▸ discoverColumns_finding fails others)
  intro ids allows confined
  apply known_confined.bind
  intro now
  apply (findRows_confined allows confined 0 now.rows).bind
  intro _
  cases now.strict with
  | true => exact refuseRow_confined allows.toAllows confined now.rows.length
  | false => exact .pure ()

variable (needed : limit = if grid.columnIds.entries.isEmpty then grid.titles.length else 0)

include needed

theorem revealCell_finding (index : Nat) (title : String) :
    grid.Finding limit (revealCell browser.besideGrid index title) bad := by
  apply Finding.bind_cells fails others unknown (needed ▸ ensureColumns_finding fails others)
  intro ids allows confined
  apply (revealRow_confined allows.toAllows confined index).bind
  intro row
  apply Keeps.bind known_reads
  rintro now ⟨state, holds⟩
  apply (columnId?_confined allows holds title).bind
  intro id
  apply (columnScroller_confined allows.toAllows confined).bind
  intro columns
  apply (contentBox_confined confined).bind
  intro box
  apply (confined.scrollTo columns.container _ _).bind
  intro _
  exact (Scroller.untilAccepted_confined confined (columnVisible_confined confined _) others columns .right _).bind
    fun _ => .pure _

theorem searchRow_finding (expected : RowSpec) (count : Nat) :
    grid.Finding limit (searchRow browser.besideGrid expected count) bad := by
  apply Finding.bind_cells fails others unknown (needed ▸ ensureColumns_finding fails others)
  intro ids allows confined
  apply (searchRows_confined allows confined expected count 0).bind
  intro found
  cases found with
  | some index => exact .pure index
  | none => exact .throw (others _ (by simp))

theorem lookUpRow_finding (expected : RowSpec) :
    grid.Finding limit (lookUpRow browser.besideGrid expected) bad := by
  apply Finding.bind_cells fails others unknown (needed ▸ ensureColumns_finding fails others)
  intro ids allows confined
  apply Keeps.bind known_reads
  rintro now ⟨state, holds⟩
  apply (withCells_confined allows holds _ _).bind
  intro row
  apply (confined.find row).bind
  exact readRowIndex_confined allows.toAllows confined

end Cells

end Searching

end Grid

/-! ## Operations -/

namespace GridOperation

open Grid

/-- The operation searches for column ids: always, or if none is known. -/
def discovers (grid : Grid) : GridOperation Value → Bool
  | .findGrid | .findColumnIds => true
  | .revealCell _ _ | .findRowIndex _ => grid.columnIds.entries.isEmpty
  | .revealRow _ | .revealHeader _ | .openHeaderMenu _ | .sortByHeader _ => false

/-- How many titles the operation looks for. -/
def searches (operation : GridOperation Value) (grid : Grid) : Nat :=
  if operation.discovers grid then grid.titles.length else 0

/-- The operation uses the ids of columns. -/
def usesColumns : GridOperation Value → Bool
  | .findGrid | .revealCell _ _ | .findRowIndex _ => true
  | .findColumnIds | .revealRow _ | .revealHeader _ | .openHeaderMenu _ | .sortByHeader _ => false

variable {grid : Grid} {browser : Browser State} {bad : Error → Prop}

theorem searches_le (operation : GridOperation Value) : operation.searches grid ≤ grid.titles.length := by
  unfold searches
  split <;> omega

/-- Where no id is known, what uses ids searches for them first. -/
theorem discovers_of_uses {operation : GridOperation Value} (uses : operation.usesColumns = true)
    (unknown : grid.columnIds.entries.isEmpty = true) : operation.discovers grid = true := by
  cases operation with
  | findGrid => rfl
  | findColumnIds => cases uses
  | revealRow index => cases uses
  | revealCell index title => exact unknown
  | revealHeader title => cases uses
  | findRowIndex expected => exact unknown
  | openHeaderMenu title => cases uses
  | sortByHeader title => cases uses

/-- An operation finds the ids of the first titles, in order, and only those. -/
theorem finding (operation : GridOperation Value) (fails : browser.Confined (fun _ => True) bad)
    (others : ∀ error, error.cause ≠ .invalidArgument → bad error)
    (unknown : operation.usesColumns = true → ∀ ids title, grid.Reaches (operation.searches grid) ids →
      ids.get? title = none → bad (unknownColumn title)) :
    grid.Finding (operation.searches grid) (operation.run browser) bad := by
  have confined (ids : Keyed String) := besideGrid_confined fails (grid.Knowing ids)
  cases operation with
  | findGrid =>
      have verified := verify_finding fails others (unknown rfl) rfl
      apply Finding.known
      intro columnViewport
      apply Finding.after ((confined _).find _)
      intro header
      cases grid.virtualized with
      | true => exact .underTimeouts fails verified
      | false => exact verified
  | findColumnIds =>
      apply Finding.bind (.underTimeouts fails (discoverColumns_finding fails others))
      exact fun ids _ _ => known_confined.bind fun grid => .pure grid.columnIds
  | revealRow index =>
      apply Finding.underTimeouts fails
      exact .of_confined (revealRow_confined (knowing_allows others) (confined _) index)
  | revealCell index title =>
      exact .underTimeouts fails (revealCell_finding fails others (unknown rfl) rfl index title)
  | revealHeader title => exact revealHeader_finding fails others title
  | findRowIndex expected =>
      apply Finding.known
      intro columnViewport
      cases grid.virtualized with
      | true => exact .underTimeouts fails (searchRow_finding fails others (unknown rfl) rfl expected _)
      | false => exact lookUpRow_finding fails others (unknown rfl) rfl expected
  | openHeaderMenu title =>
      apply Finding.bind (revealHeader_finding fails others title)
      intro ids _ header
      exact ((confined ids).clickOn _).bind fun _ => .pure ()
  | sortByHeader title =>
      apply Finding.bind (revealHeader_finding fails others title)
      intro ids _ header
      exact ((confined ids).clickOn _).bind fun _ => .pure ()

theorem ends_with_found (operation : GridOperation Value) (browser : Browser State) (grid : Grid)
    (state : State) :
    let ended := (operation.run browser).outcome (grid, state)
    ∃ found : List String, found.length ≤ operation.searches grid ∧
      (∀ value, ended.1 = .ok value → found.length = operation.searches grid) ∧
      grid.Knowing (grid.columnIds.withEach grid.titles found) ended.2.1 := by
  have start : grid.Knowing grid.columnIds grid := .mk grid.columnViewport
  have finding : grid.Finding (operation.searches grid) (operation.run browser) fun _ => True :=
    operation.finding browser.confined_trivially (fun _ _ => trivial) fun _ _ _ _ _ => trivial
  have finding := finding (grid, state) start
  generalize (operation.run browser).outcome (grid, state) = ended at finding ⊢
  obtain ⟨result, after⟩ := ended
  cases result with
  | ok value =>
      obtain ⟨found, length, knowing⟩ := finding
      exact ⟨found, Nat.le_of_eq length, fun _ _ => length, knowing⟩
  | error error =>
      obtain ⟨_, count, upTo, found, rfl, knowing⟩ := finding
      exact ⟨found, upTo, by simp, knowing⟩

/-- A declared column is only reported as unknown when ids of others are known and its own is not. -/
theorem of_reports_unknown (operation : GridOperation Value) (browser : Browser State) (grid : Grid)
    (state : State) (title : String)
    (fails : browser.Confined (fun _ => True) fun error => error ≠ unknownColumn title)
    (declared : title ∈ grid.titles)
    (reports : ((operation.run browser).outcome (grid, state)).1 = .error (unknownColumn title)) :
    grid.columnIds.entries.isEmpty = false ∧ grid.columnIds.get? title = none := by
  apply Decidable.byContradiction
  intro otherwise
  have start : grid.Knowing grid.columnIds grid := .mk grid.columnViewport
  have finding : grid.Finding (operation.searches grid) (operation.run browser) fun error =>
      error ≠ unknownColumn title := by
    apply operation.finding fails
    · rintro error cause rfl
      exact cause rfl
    · rintro uses ids other ⟨found, length, rfl⟩ missing same
      obtain rfl := unknownColumn_inj.mp same
      cases discovers : operation.discovers grid with
      | true =>
          simp only [searches, discovers, if_true] at length
          have known := (grid.columnIds.isSome_withEach_iff grid.titles found other (Nat.le_of_eq length)).mpr
            (.inr (by rwa [length, List.take_length]))
          simp [missing] at known
      | false =>
          simp only [searches, discovers, Bool.false_eq_true, if_false, List.length_eq_zero_iff] at length
          rw [length, Keyed.withEach_nil] at missing
          refine otherwise ⟨?_, missing⟩
          cases unknown : grid.columnIds.entries.isEmpty with
          | true => rw [discovers_of_uses uses unknown] at discovers; cases discovers
          | false => rfl
  have ended := finding (grid, state) start
  generalize (operation.run browser).outcome (grid, state) = outcome at reports ended
  obtain ⟨result, after⟩ := outcome
  cases reports
  exact ended.1 rfl

end GridOperation

/-! ## Main result -/

/-- The grids that come about: built from a plan, used with any browser, whether that fails or not, or given
other timeouts. -/
inductive Grid.Reached : Grid → Prop where
  | built {plan : GridPlan} {grid : Grid} (built : plan.build = .ok grid) : Reached grid
  | ran {State Value : Type} {grid : Grid} (reached : Reached grid) (operation : GridOperation Value)
      (browser : Browser State) (state : State) :
      Reached ((operation.run browser).outcome (grid, state)).2.1
  | timeouts {grid : Grid} (reached : Reached grid) (timeouts : GridTimeouts) :
      Reached { grid with settings := { grid.settings with timeouts } }

theorem Grid.Reached.first_known {grid : Grid} (reached : grid.Reached) :
    ∃ count ≤ grid.titles.length, ∀ title,
      (grid.columnIds.get? title).isSome ↔ title ∈ grid.titles.take count := by
  induction reached with
  | @built plan grid built =>
      obtain ⟨_, _, fresh, _⟩ := GridPlan.build_fresh built
      exact ⟨0, Nat.zero_le _, by simp [fresh, Keyed.get?_empty]⟩
  | @ran State Value grid reached operation browser state ih =>
      obtain ⟨count, inRange, known⟩ := ih
      obtain ⟨found, upTo, _, knowing⟩ := operation.ends_with_found browser grid state
      have fits := Nat.le_trans upTo operation.searches_le
      generalize ((operation.run browser).outcome (grid, state)).2.1 = now at knowing ⊢
      cases knowing
      refine ⟨max count found.length, Nat.max_le.mpr ⟨inRange, fits⟩, ?_⟩
      intro title
      rw [Keyed.isSome_withEach_iff _ _ _ _ fits, known]
      rcases Nat.le_total count found.length with shorter | shorter
      · rw [Nat.max_eq_right shorter]
        exact or_iff_right_of_imp fun mem => List.take_subset_take_left grid.titles shorter mem
      · rw [Nat.max_eq_left shorter]
        exact or_iff_left_of_imp fun mem => List.take_subset_take_left grid.titles shorter mem
  | timeouts reached timeouts ih => exact ih

/-- An operation finds column ids in the order of the titles. It keeps those it has found when it fails, so the
titles whose ids are known are the first ones. A declared column is reported as unknown only while the ids of
other columns are known and its own is not. -/
theorem columnIds_found_in_order {State Value : Type} (operation : GridOperation Value) (browser : Browser State)
    (grid : Grid) (state : State) :
    let ended := (operation.run browser).outcome (grid, state)
    (∃ found : List String, found.length ≤ operation.searches grid ∧
      (∀ value, ended.1 = .ok value → found.length = operation.searches grid) ∧
      grid.Knowing (grid.columnIds.withEach grid.titles found) ended.2.1) ∧
    (grid.Reached → ∃ count ≤ grid.titles.length, ∀ title,
      (grid.columnIds.get? title).isSome ↔ title ∈ grid.titles.take count) ∧
    ∀ title, (browser.Confined (fun _ => True) fun error => error ≠ Grid.unknownColumn title) →
      title ∈ grid.titles → ended.1 = .error (Grid.unknownColumn title) →
      grid.columnIds.entries.isEmpty = false ∧ grid.columnIds.get? title = none :=
  ⟨operation.ends_with_found browser grid state, fun reached => reached.first_known,
    fun title fails declared reports =>
      operation.of_reports_unknown browser grid state title fails declared reports⟩

/-- A grid of two columns. -/
def pairGrid : Grid where
  titles := ["A", "B"]
  rows := []
  virtualized := false
  strict := false
  regions := .inside Html.html
  settings := {}

/-- A page that shows the header of the first column alone. -/
def halfPage : Page :=
  let header : Handle := ⟨"a"⟩
  (Page.add {} header { attributes := .ofList [(Grid.columnIdAttribute, "1")] }).register
    (pairGrid.headerPath "A") ⟨[header], none⟩

/-- The page once it shows the other header and a row. -/
def wholePage : Page :=
  let header : Handle := ⟨"b"⟩
  let row : Handle := ⟨"row"⟩
  let headed := (halfPage.add header { attributes := .ofList [(Grid.columnIdAttribute, "2")] }).register
    (pairGrid.headerPath "B") ⟨[header], none⟩
  (headed.add row { attributes := .ofList [(Grid.rowIndexAttribute, "0")] }).register
    ((Grid.row.inside pairGrid.regions.content).and
      (.contains (Grid.cell.that [Grid.hasColumnId "2", .hasAggregatedText "x"]))) ⟨[row], none⟩

/-- The failed search leaves the id of the first column, and from then on the second one is unknown, where a
grid of which nothing has been learnt finds the row. -/
theorem columnIds_kept_half :
    let failed := Page.browser.findColumnIds.outcome (pairGrid, halfPage)
    let expected := RowSpec.ofTexts [("B", "x")]
    (∃ error, failed.1 = .error error) ∧ pairGrid.columnIds = .empty ∧
      failed.2.1.columnIds = .ofList [("A", "1")] ∧ "B" ∈ pairGrid.titles ∧
      ((Page.browser.findRowIndex expected).outcome (failed.2.1, wholePage)).1 =
        .error (Grid.unknownColumn "B") ∧
      ((Page.browser.findRowIndex expected).outcome (pairGrid, wholePage)).1 = .ok 0 := by
  refine ⟨⟨⟨.notFound, (pairGrid.headerPath "B").toXPath⟩, ?_⟩, rfl, ?_, ?_, ?_, ?_⟩ <;> decide +kernel

theorem columnIds_found_in_order_half :
    let failed := ((GridOperation.findColumnIds.run Page.browser).outcome (pairGrid, halfPage)).2.1
    (∃ found : List String, found.length ≤ 2 ∧
        pairGrid.Knowing (pairGrid.columnIds.withEach ["A", "B"] found) failed) ∧
      (∃ count ≤ failed.titles.length, ∀ title,
        (failed.columnIds.get? title).isSome ↔ title ∈ failed.titles.take count) ∧
      failed.columnIds.entries.isEmpty = false ∧ failed.columnIds.get? "B" = none := by
  intro failed
  have plan : GridPlan.build { titles := some ["A", "B"], rows := some [], virtualized := false } = .ok pairGrid := rfl
  have failedReached : failed.Reached := .ran (.built plan) .findColumnIds Page.browser halfPage
  obtain ⟨⟨found, upTo, _, knowing⟩, _, _⟩ :=
    columnIds_found_in_order .findColumnIds Page.browser pairGrid halfPage
  obtain ⟨_, known, reports⟩ :=
    columnIds_found_in_order (.findRowIndex (.ofTexts [("B", "x")])) Page.browser failed wholePage
  refine ⟨⟨found, upTo, knowing⟩, known failedReached, reports "B" ?_ ?_ ?_⟩
  · apply Page.browser_confined
    rintro error cause rfl
    exact cause rfl
  · decide +kernel
  · decide +kernel

end Locator
