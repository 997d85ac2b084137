import Locator.Proofs.Grid.Sight

/-!
# Reaching a header

Column discovery scrolls the container of the columns, and so comes by every header. The search that makes a header
visible begins with both containers at their starts as well, but it scrolls the container of the rows: where columns
have a container of their own, only the headers that are there at the start are found.
-/

namespace Locator

open Locator.Action Locator.Page

set_option autoImplicit false

namespace Page

/-- The path may find something. -/
def Names (page : Page) (path : Path) : Prop :=
  ∃ rules, page.rules.get? path.toXPath = some rules ∧ ∃ rule ∈ rules, rule.handles ≠ []

variable {page page' base stood : Page} {path : Path} {scroller : Scroller} {direction : Direction} {edge : Int}
  {container : Element} {steps : Nat}

theorem names_of_resolve (found : page.resolve path.toXPath ≠ []) : page.Names path := by
  obtain ⟨handle, mem⟩ := List.exists_mem_of_ne_nil _ found
  obtain ⟨rules, registered, rule, among, _, named⟩ := mem_resolve_iff.mp mem
  exact ⟨rules, registered, rule, among, List.ne_nil_of_mem named⟩

theorem Names.of_rules (names : page.Names path) (same : page'.rules = page.rules) : page'.Names path := by
  unfold Names
  rwa [same]

/-- What is scrolled further to the right stands further to the left. -/
theorem rect_x_le {step : Int} {id : String} {element : Element} (sized : base.Sized step) (like : base.Like page)
    (like' : base.Like page') (live : base.elements.get? id = some element)
    (further : ∀ handle, (page.offset handle).x ≤ (page'.offset handle).x) :
    (page'.rect element).x ≤ (page.rect element).x := by
  rw [rect_eq sized like live, rect_eq sized like' live]
  cases anchor : element.anchor with
  | none => rw [shift_of_fixed anchor, shift_of_fixed anchor]
  | some container =>
      rw [shift_of_anchored anchor, shift_of_anchored anchor]
      exact Int.sub_le_sub_left (further container) _

theorem rect_width (page : Page) (element : Element) : (page.rect element).width = element.rect.width := by
  unfold rect
  split <;> rfl

/-- The page while a search in a container has been scrolling it. -/
theorem agreeOff_of_stands (stands : scroller.Stands direction page container steps stood) :
    AgreeOff (· = scroller.container) page stood :=
  ⟨stands.elements, stands.rules, fun handle other => (stands.offset handle).trans (if_neg other)⟩

section Ends

variable (inRange : page.InRange) (there : page.elements.get? scroller.container.id = some container)
  (sized : page.Sized scroller.settings.step) (stallsFit : scroller.settings.maxStalls < 0x100000000) (live : page.Live)

include inRange there sized stallsFit live

/-- A search ends with a match if one of its stops has a match and all that may match there are accepted. -/
theorem untilAccepted_seeks_ok (inTime : steps ≤ scroller.lastStep direction page container)
    (there' : ∀ stood, scroller.Stands direction page container steps stood → stood.resolve path.toXPath ≠ [])
    (shown : ∀ stood, scroller.Stands direction page container steps stood →
      ∀ handle element, page.Registered path handle element → stood.startsBefore direction edge element = true) :
    ∃ found, ((scroller.untilAccepted browser direction path (seeks direction edge)).outcome page).1 = .ok found := by
  obtain ⟨visited, ends⟩ :=
    untilAccepted_seeks_ends inRange there sized stallsFit direction path edge fun rules => live _ rules
  generalize (scroller.untilAccepted browser direction path (seeks direction edge)).outcome page = ended at ends
  cases ends with
  | found _ handle => exact ⟨handle, rfl⟩
  | exhausted after stood missed =>
      have here := stood steps inTime
      obtain ⟨handle, mem⟩ := List.exists_mem_of_ne_nil _ (there' _ here)
      have refused := List.find?_eq_none.mp (missed steps inTime) handle mem
      obtain ⟨element, found⟩ := (live.of_rules here.rules here.elements).of_mem mem
      obtain ⟨rules, registered, named, alive⟩ := registered_of_mem mem found
      have accepted := shown _ here handle element ⟨rules, here.rules ▸ registered, named, here.elements ▸ alive⟩
      simp [found, accepted] at refused

theorem untilAccepted_seeks_exhausted
    (missing : ∀ steps stood, scroller.Stands direction page container steps stood → stood.resolve path.toXPath = []) :
    ((scroller.untilAccepted browser direction path (seeks direction edge)).outcome page).1 =
      .error (Scroller.exhausted path direction (scroller.lastStep direction page container)) := by
  obtain ⟨visited, ends⟩ :=
    untilAccepted_seeks_ends inRange there sized stallsFit direction path edge fun rules => live _ rules
  generalize (scroller.untilAccepted browser direction path (seeks direction edge)).outcome page = ended at ends
  cases ends with
  | found steps handle _ _ stood _ here =>
      have none := missing steps _ (stood steps (Nat.le_refl steps))
      rw [firstMatch, none] at here
      cases here
  | exhausted => rfl

end Ends

end Page

namespace Grid

variable {grid learnt : Grid} {page after : Page} {rows columns : Handle} {container : Element} {title : String}
  {box : Rect}

/-- What is registered for the places of the grid does not hinge on how it is scrolled. -/
structure PlacesSettled (grid : Grid) (page : Page) : Prop where
  content : page.Settled (grid.Scrolled page) grid.regions.content
  viewport : page.Settled (grid.Scrolled page) grid.regions.viewport
  columns : page.Settled (grid.Scrolled page) (grid.columnPlace page)

/-- The columns are being discovered: it is known by which path they are scrolled, and nothing but their container
has been scrolled. -/
structure Discovering (grid : Grid) (page : Page) (columns : Handle) (whole : Grid × Page) : Prop where
  known : ∃ columnIds, whole.1 = { grid.located page with columnIds }
  like : page.Like whole.2
  agree : AgreeOff (· = columns) page whole.2

/-- The ids of these titles have been found: their headers are on the page, and the columns are at their start again. -/
structure Surveyed (grid : Grid) (page : Page) (columns : Handle) (titles : List String) (whole : Grid × Page) : Prop
    extends grid.Discovering page columns whole where
  start : whole.2.offset columns = .zero
  headers : ∀ title ∈ titles, page.Names (grid.headerPath title)

/-! ## Discovery -/

section Titles

variable {scroller : Scroller} (there : page.elements.get? scroller.container.id = some container)
  (sized : page.Sized scroller.settings.step) (stallsFit : scroller.settings.maxStalls < 0x100000000)

include there

theorem toTopLeftCorner_discovers :
    Concludes (grid.Discovering page scroller.container) (scroller.toTopLeftCorner Page.browser.besideGrid)
      (fun _ whole => grid.Discovering page scroller.container whole ∧ whole.2.offset scroller.container = .zero)
      fun _ _ => True := by
  rintro ⟨now, current⟩ discovering
  have scrolled : (scroller.toTopLeftCorner Page.browser.besideGrid).outcome (now, current) = _ :=
    outcome_beside ((Page.browser.beside_alike now).scrollTo scroller.container _ _)
      (outcome_scrollTo (discovering.like.elements ▸ there) _ _)
  rw [scrolled]
  refine ⟨⟨discovering.known, discovering.like.record.moved there (container.clampOffset_admits _),
    discovering.agree.recorded.scrolled rfl _⟩, ?_⟩
  rw [offset_moved, if_pos rfl]
  simp only [Element.clampOffset, Element.clamp, placed, Option.getD_some, Offset.zero, Offset.mk.injEq]
  omega

include sized stallsFit

theorem untilPresent_discovers (header : Path) :
    Concludes (grid.Discovering page scroller.container)
      (scroller.untilPresent Page.browser.besideGrid .right header)
      (fun _ whole => grid.Discovering page scroller.container whole ∧ page.Names header) fun _ _ => True := by
  rintro ⟨now, current⟩ discovering
  have live : current.elements.get? scroller.container.id = some container := discovering.like.elements ▸ there
  have spans := sized.spans _ _ there .right
  obtain ⟨visited, ends⟩ := Scroller.untilPresent_ends header discovering.like.inRange live spans stallsFit
  have searches := Concludes.alone
    (Scroller.untilPresent_alike (Page.browser.beside_alike now) scroller .right header) current
  refine searches.weaken ?_ (fun _ _ _ => trivial) _ rfl
  rintro found ⟨_, after⟩ ⟨rfl, ended⟩
  rw [ended] at ends
  cases ends with
  | found steps _ _ _ stood _ here left =>
      have like : page.Like after := ⟨left.elements.trans discovering.like.elements,
        left.rules.trans discovering.like.rules, left.inRange discovering.like.inRange live⟩
      refine ⟨⟨discovering.known, like, discovering.agree.trans (agreeOff_of_stands left)⟩, ?_⟩
      have shown : (visited steps).resolve header.toXPath ≠ [] :=
        List.ne_nil_of_mem (List.mem_of_find?_eq_some here)
      exact (names_of_resolve shown).of_rules
        (discovering.like.rules.symm.trans (stood steps (Nat.le_refl steps)).rules.symm)

/-- Each search for a header leaves it known to the page, and the columns go back to their start after it. -/
theorem discoverTitles_discovers (titles : List String) :
    Concludes (fun whole => grid.Discovering page scroller.container whole ∧
        (titles = [] → whole.2.offset scroller.container = .zero))
      (discoverTitles Page.browser.besideGrid (some scroller) titles)
      (fun _ => grid.Surveyed page scroller.container titles) fun _ _ => True := by
  induction titles with
  | nil => exact .pure fun whole start => ⟨start.1, start.2 rfl, by simp⟩
  | cons title titles ih =>
      rintro ⟨now, current⟩ ⟨discovering, _⟩
      rw [discoverTitles, outcome_bind_of_ok (outcome_known _)]
      have header : now.headerPath title = grid.headerPath title := by
        obtain ⟨columnIds, rfl⟩ := discovering.known
        rfl
      simp only [header]
      refine (untilPresent_discovers there sized stallsFit (grid.headerPath title)).bind ?_ _ discovering
      rintro found ⟨now', current'⟩ ⟨discovering', names⟩
      have read : (Page.browser.besideGrid.attribute? found columnIdAttribute).outcome (now', current') = _ :=
        outcome_beside ((Page.browser.beside_alike now').attribute? found columnIdAttribute)
          (outcome_onElement_map current' found _)
      cases value : (current'.element? found).map (·.attribute? columnIdAttribute) with
      | error error =>
          rw [value] at read
          rw [outcome_bind_of_error read]
          trivial
      | ok answer =>
          rw [value] at read
          rw [outcome_bind_of_ok read]
          cases answer with
          | none => trivial
          | some id =>
              have learns : Concludes (grid.Discovering page scroller.container)
                  (learn fun grid => { grid with columnIds := grid.columnIds.insert title id })
                  (fun _ => grid.Discovering page scroller.container) fun _ _ => True := by
                rintro ⟨now, current⟩ ⟨⟨columnIds, rfl⟩, like, agree⟩
                exact ⟨⟨columnIds.insert title id, rfl⟩, like, agree⟩
              refine learns.bind (fun _ => (toTopLeftCorner_discovers there).bind fun _ => ?_) _ discovering'
              rintro whole ⟨back, start⟩
              refine ih.weaken ?_ (fun _ _ _ => trivial) _ ⟨back, fun _ => start⟩
              intro _ _ surveyed
              exact ⟨surveyed.toDiscovering, surveyed.start, List.forall_mem_cons.mpr ⟨names, surveyed.headers⟩⟩

end Titles

section Discovery

variable (virtualized : grid.virtualized = true) (titled : grid.titles ≠ []) (inRange : page.InRange)
  (found : grid.columnContainerOn page = some columns) (there : page.elements.get? columns.id = some container)
  (sized : page.Sized grid.settings.scroll.step) (stallsFit : grid.settings.scroll.maxStalls < 0x100000000)

include virtualized titled inRange found there sized stallsFit

theorem discoverColumns_surveys :
    Concludes (fun whole => whole.1 = grid ∧ Same page whole.2) (discoverColumns Page.browser.besideGrid)
      (fun _ => grid.Surveyed page columns grid.titles) fun _ _ => True := by
  rintro ⟨now, current⟩ ⟨known, same⟩
  obtain rfl : grid = now := known.symm
  obtain ⟨sought, left, scroller⟩ := outcome_columnScroller grid current
  have place : grid.columnPlace current = grid.columnPlace page := columnPlace_of_same same
  rw [place, same.found_eq, found_eq_ok_iff.mpr found] at scroller
  unfold discoverColumns
  rw [outcome_bind_of_ok (outcome_known _)]
  simp only [virtualized, if_true, map_eq_pure_bind, bind_assoc, pure_bind]
  rw [outcome_bind_of_ok scroller]
  have discovering : grid.Discovering page columns (grid.located current, sought) := by
    refine ⟨⟨grid.columnIds, ?_⟩, ((Like.refl inRange).of_agreeing same).of_agreeing left, ?_⟩
    · rw [located, located, place]
    · exact (same.trans left).mono fun _ => False.elim
  have searches : Concludes _
      (discoverTitles Page.browser.besideGrid (some ⟨columns, grid.settings.scroll⟩) grid.titles)
      (fun _ => grid.Surveyed page columns grid.titles) _ :=
    discoverTitles_discovers there sized stallsFit grid.titles
  exact searches _ ⟨discovering, fun untitled => absurd untitled titled⟩

theorem surveyed_of_ok {ids : Keyed String}
    (discovered : Page.browser.findColumnIds.outcome (grid, page) = (.ok ids, learnt, after)) :
    grid.Surveyed page columns grid.titles (learnt, after) := by
  have surveys := discoverColumns_surveys virtualized titled inRange found there sized stallsFit
    (grid, page.timed grid.settings.timeouts.during) ⟨rfl, (AgreeOff.refl page).timed _⟩
  have known (whole : Grid × Page) :
      Action.outcome (do return (← known).columnIds : GridAction Page (Keyed String)) whole =
        (.ok whole.1.columnIds, whole) := rfl
  cases ended : (discoverColumns Page.browser.besideGrid).outcome
      (grid, page.timed grid.settings.timeouts.during) with
  | mk result whole =>
      rw [ended] at surveys
      have lowered := outcome_underTimeouts grid page (discoverColumns Page.browser.besideGrid)
      rw [ended] at lowered
      unfold Browser.findColumnIds at discovered
      cases result with
      | error error =>
          rw [outcome_bind_of_error lowered] at discovered
          cases discovered
      | ok _ =>
          rw [outcome_bind_of_ok lowered, known] at discovered
          cases discovered
          exact ⟨⟨surveys.known, surveys.like.of_agreeing ((AgreeOff.refl _).timed _), surveys.agree.timed _⟩,
            surveys.start, surveys.headers⟩

end Discovery

/-! ## The search for a header -/

/-- The elements of the header are displayed left of the right edge of a box, and each is there in a stretch of the
columns that a search does not pass by. -/
structure HeaderLaidOut (grid : Grid) (page : Page) (title : String) (columns : Handle) (container : Element)
    (box : Rect) : Prop where
  windows : ∀ rules, page.rules.get? (grid.headerPath title).toXPath = some rules → ∀ rule ∈ rules,
    ∃ least greatest, rule.window = some (Direction.right.window columns least greatest) ∧ 0 ≤ greatest ∧
      least ≤ max 0 container.extent.x ∧ grid.settings.scroll.step - 1 ≤ greatest - least
  displayed : ∀ handle element, page.Registered (grid.headerPath title) handle element → element.displayed = true
  left : ∀ handle element, page.Registered (grid.headerPath title) handle element →
    (page.rect element).x < box.right

theorem revealHeader_eq (browser : Browser (Grid × Page)) (title : String) :
    revealHeader browser title = atStart browser >>= fun scrollers => known >>= fun grid =>
      contentBox browser >>= fun box =>
        scrollers.1.untilAccepted browser .right (grid.headerPath title) (visible browser .right box.right) >>=
          fun _ => pure (grid.headerPath title) := by
  rw [atStart_bind]
  rfl

/-- The header is searched for from the start of both containers, by scrolling the container of the rows. -/
theorem outcome_revealHeader (contained : grid.Contained page) (title : String) :
    ∃ (scrollers : Scroller × Scroller) (started : Page), grid.Started page scrollers (grid.located page, started) ∧
      ∀ box, grid.contentRect started = .ok box →
        ((revealHeader Page.browser.besideGrid title).outcome (grid, page)).1 =
          ((scrollers.1.untilAccepted Page.browser .right (grid.headerPath title) (seeks .right box.right)).outcome
            (started.record (.find grid.regions.content.toXPath))).1.map fun _ => grid.headerPath title := by
  have starts := atStart_concludes grid page _ rfl
  cases ended : (atStart Page.browser.besideGrid).outcome (grid, page) with
  | mk result whole =>
      rw [ended] at starts
      cases result with
      | error error => exact absurd contained starts
      | ok scrollers =>
          obtain ⟨_, started⟩ := whole
          obtain rfl := starts.located
          refine ⟨scrollers, started, starts, fun box content => ?_⟩
          have measured := outcome_contentBox (grid.located page) started
          rw [show (grid.located page).contentRect started = .ok box from content] at measured
          rw [revealHeader_eq, outcome_bind_of_ok ended, outcome_bind_of_ok (outcome_known _),
            outcome_bind_of_ok measured]
          have alike := untilVisible_beside (grid.located page) scrollers.1 .right (grid.headerPath title) box.right
          cases searched : (scrollers.1.untilAccepted Page.browser .right (grid.headerPath title)
              (seeks .right box.right)).outcome (started.record (.find grid.regions.content.toXPath)) with
          | mk found reached =>
              have visited := outcome_beside alike searched
              cases found with
              | error error => exact congrArg Prod.fst (outcome_bind_of_error visited)
              | ok handle => exact congrArg Prod.fst (outcome_bind_of_ok visited)

/-- A search by the scroller to the right starts at the left edge of its container, and everything else is as far to
the right as on the page. -/
structure FromLeft (page : Page) (scroller : Scroller) (moved : Element) (started : Page) : Prop where
  elements : started.elements = page.elements
  rules : started.rules = page.rules
  inRange : started.InRange
  there : page.elements.get? scroller.container.id = some moved
  start : (started.offset scroller.container).x = 0
  others : ∀ handle, handle ≠ scroller.container → (started.offset handle).x = (page.offset handle).x

section Reach

variable {started stood : Page} {steps : Nat} {edge : Int}
  (laidOut : grid.HeaderLaidOut page title columns container box)

include laidOut

theorem HeaderLaidOut.startsBefore {step : Int} (sized : page.Sized step) (inRange : page.InRange)
    (like : page.Like stood) (further : ∀ handle, (page.offset handle).x ≤ (stood.offset handle).x)
    (wider : box.right ≤ edge) (handle : Handle) (element : Element)
    (registered : page.Registered (grid.headerPath title) handle element) :
    stood.startsBefore .right edge element = true := by
  have left := laidOut.left handle element registered
  have displayed := laidOut.displayed handle element registered
  obtain ⟨_, _, _, live⟩ := registered
  have shifted := rect_x_le sized (.refl inRange) like live further
  rw [startsBefore_iff]
  refine ⟨displayed, ?_⟩
  show (stood.rect element).x < edge
  omega

/-- Which headers are there depends on where the columns are scrolled. -/
theorem HeaderLaidOut.resolve_eq (rules : stood.rules = page.rules)
    (same : (stood.offset columns).x = (page.offset columns).x) :
    stood.resolve (grid.headerPath title).toXPath = page.resolve (grid.headerPath title).toXPath := by
  unfold resolve
  rw [rules]
  cases registered : page.rules.get? (grid.headerPath title).toXPath with
  | none => rfl
  | some found =>
      have applying : found.filter stood.applies = found.filter page.applies := by
        apply List.filter_congr
        intro rule mem
        obtain ⟨least, greatest, window, _⟩ := laidOut.windows found registered rule mem
        have unbounded (place : Int) : Span.contains {} place = true := rfl
        simp only [applies, window, Option.all_some, windowHolds, Direction.window, same, unbounded]
      simp only [Option.getD_some, applying]

section Search

variable {scroller : Scroller} {moved : Element} (settings : scroller.settings = grid.settings.scroll)
  (fromLeft : FromLeft page scroller moved started) (inRange : page.InRange)
  (sized : page.Sized grid.settings.scroll.step) (live : page.Live)
  (stallsFit : grid.settings.scroll.maxStalls < 0x100000000)

include settings fromLeft inRange sized live stallsFit

/-- The search ends with the header if it comes by a stretch where the header is there, no further to the left than
the page was when the header was measured. -/
theorem HeaderLaidOut.found_in_stretch (wider : box.right ≤ edge) {least greatest : Int}
    (between : ∃ steps,
      steps ≤ lastStep (max 0 moved.extent.x) 0 grid.settings.scroll.step grid.settings.scroll.maxStalls ∧
        least ≤ stop (max 0 moved.extent.x) 0 grid.settings.scroll.step steps ∧
        stop (max 0 moved.extent.x) 0 grid.settings.scroll.step steps ≤ greatest)
    (further : (page.offset scroller.container).x ≤ max 0 least)
    (shown : ∀ stood : Page, stood.rules = page.rules → least ≤ (stood.offset scroller.container).x →
      (stood.offset scroller.container).x ≤ greatest →
      (∀ handle, handle ≠ scroller.container → (stood.offset handle).x = (page.offset handle).x) →
      stood.resolve (grid.headerPath title).toXPath ≠ []) :
    ∃ found, ((scroller.untilAccepted Page.browser .right (grid.headerPath title)
      (seeks .right edge)).outcome started).1 = .ok found := by
  obtain ⟨steps, inTime, reached, upTo⟩ := between
  have nonneg := (stop_between grid.settings.scroll.step (Int.le_refl 0) (Int.le_max_left 0 moved.extent.x) steps).1
  have soon : steps ≤ scroller.lastStep .right started moved := by
    show steps ≤ lastStep _ (started.offset scroller.container).x _ _
    rw [fromLeft.start, settings]
    exact inTime
  have place {stood : Page} (stands : scroller.Stands .right started moved steps stood) :
      (stood.offset scroller.container).x = stop (max 0 moved.extent.x) 0 grid.settings.scroll.step steps := by
    rw [stands.offset, if_pos rfl]
    show stop _ (started.offset scroller.container).x _ _ = _
    rw [fromLeft.start, settings]
    rfl
  have others {stood : Page} (stands : scroller.Stands .right started moved steps stood) (handle : Handle)
      (other : handle ≠ scroller.container) : (stood.offset handle).x = (page.offset handle).x := by
    rw [(agreeOff_of_stands stands).offset handle other]
    exact fromLeft.others handle other
  refine untilAccepted_seeks_ok fromLeft.inRange (fromLeft.elements ▸ fromLeft.there)
    (settings ▸ sized.of_elements fromLeft.elements) (settings ▸ stallsFit)
    (live.of_rules fromLeft.rules fromLeft.elements) soon ?_ ?_
  · intro stood stands
    rw [← place stands] at reached upTo
    exact shown stood (stands.rules.trans fromLeft.rules) reached upTo (others stands)
  · rintro stood stands handle element ⟨registered, found, named, alive⟩
    have like : page.Like stood :=
      ⟨stands.elements.trans fromLeft.elements, stands.rules.trans fromLeft.rules,
        stands.inRange fromLeft.inRange (fromLeft.elements ▸ fromLeft.there)⟩
    refine laidOut.startsBefore sized inRange like ?_ wider handle element
      ⟨registered, fromLeft.rules ▸ found, named, fromLeft.elements ▸ alive⟩
    intro other
    by_cases own : other = scroller.container
    · rw [own, place stands]
      omega
    · exact Int.le_of_eq (others stands other own).symm

section Forward

variable (forward : 0 < grid.settings.scroll.step) (patient : 1 ≤ grid.settings.scroll.maxStalls)
  (wider : box.right ≤ edge)

include forward patient wider

/-- Scrolling the columns from their start comes by every header. -/
theorem HeaderLaidOut.found_by_columns (names : page.Names (grid.headerPath title))
    (own : scroller.container = columns) (same : moved = container) (start : (page.offset columns).x = 0) :
    ∃ found, ((scroller.untilAccepted Page.browser .right (grid.headerPath title)
      (seeks .right edge)).outcome started).1 = .ok found := by
  subst own same
  obtain ⟨rules, registered, ⟨handles, _⟩, mem, some⟩ := names
  obtain ⟨least, greatest, rfl, ahead, within, wide⟩ := laidOut.windows rules registered _ mem
  obtain ⟨handle, named⟩ := List.exists_mem_of_ne_nil _ some
  have between :=
    exists_stop_between (Int.le_refl 0) (Int.le_max_left 0 moved.extent.x) forward patient ahead within wide
  refine laidOut.found_in_stretch settings fromLeft inRange sized live stallsFit wider between (by omega) ?_
  intro stood unchanged reached upTo _
  have unbounded (place : Int) : Span.contains {} place = true := rfl
  have near : stood.windowHolds (Direction.right.window scroller.container least greatest) = true := by
    simp [windowHolds, Direction.window, Span.contains, Span.between, reached, upTo]
  exact List.ne_nil_of_mem (mem_resolve_iff.mpr ⟨rules, unchanged ▸ registered, _, mem, near, named⟩)

/-- Scrolling another container, the header is found if it is there at the start. -/
theorem HeaderLaidOut.found_by_rows (other : columns ≠ scroller.container)
    (shown : page.resolve (grid.headerPath title).toXPath ≠ []) :
    ∃ found, ((scroller.untilAccepted Page.browser .right (grid.headerPath title)
      (seeks .right edge)).outcome started).1 = .ok found := by
  have within := (inRange.live _ _ fromLeft.there).right
  obtain ⟨steps, inTime, reached⟩ := exists_stop_reaching (Int.le_refl 0) (Int.le_max_left 0 moved.extent.x) forward
    patient within
  refine laidOut.found_in_stretch settings fromLeft inRange sized live stallsFit wider
    ⟨steps, inTime, reached, Int.le_refl _⟩ (Int.le_max_right _ _) ?_
  intro stood unchanged _ _ others
  rwa [laidOut.resolve_eq unchanged (others columns other)]

end Forward

omit inRange in
/-- Scrolling another container, the header is not found if it is not there at the start. -/
theorem HeaderLaidOut.missed_by_rows (other : columns ≠ scroller.container)
    (hidden : page.resolve (grid.headerPath title).toXPath = []) :
    ∃ steps, ((scroller.untilAccepted Page.browser .right (grid.headerPath title)
      (seeks .right edge)).outcome started).1 = .error (Scroller.exhausted (grid.headerPath title) .right steps) := by
  refine ⟨_, untilAccepted_seeks_exhausted fromLeft.inRange (fromLeft.elements ▸ fromLeft.there)
    (settings ▸ sized.of_elements fromLeft.elements) (settings ▸ stallsFit)
    (live.of_rules fromLeft.rules fromLeft.elements) ?_⟩
  intro steps stood stands
  have level : (stood.offset columns).x = (page.offset columns).x := by
    rw [(agreeOff_of_stands stands).offset columns other]
    exact fromLeft.others columns other
  rw [laidOut.resolve_eq (stands.rules.trans fromLeft.rules) level, hidden]

end Search

end Reach

/-! ## Main result -/

theorem contentRect_wider {step : Int} (sized : page.Sized step) (like : page.Like page) (like' : page.Like after)
    {loose : Handle → Prop} (agree : AgreeOff loose page after) (settled : page.Settled loose grid.regions.content)
    (nearer : ∀ handle, (after.offset handle).x ≤ (page.offset handle).x) (content : grid.contentRect page = .ok box) :
    ∃ measured, grid.contentRect after = .ok measured ∧ box.right ≤ measured.right := by
  obtain ⟨found, element, first, there, rfl⟩ := contentRect_eq_ok_iff.mp content
  refine ⟨after.rect element, contentRect_eq_ok_iff.mpr ⟨found, element, ?_, agree.elements ▸ there, rfl⟩, ?_⟩
  · rwa [first?, agree.resolve_eq settled]
  · have shifted := rect_x_le sized like' like there nearer
    rw [(rect_kept sized like there).right_eq, (rect_kept sized like' there).right_eq, rect_width, rect_width]
    omega

/-- The containers are found as before when the columns have been discovered. -/
theorem Surveyed.containers {titles : List String} (surveyed : grid.Surveyed page columns titles (learnt, after))
    (placed : grid.PlacesSettled page) (viewport : grid.rowContainerOn page = some rows)
    (found : grid.columnContainerOn page = some columns) :
    learnt.rowContainerOn after = some rows ∧ learnt.columnContainerOn after = some columns := by
  obtain ⟨columnIds, rfl⟩ := surveyed.known
  have settled {path : Path} (unhinged : page.Settled (grid.Scrolled page) path) :
      after.first? path = page.first? path := by
    unfold first?
    rw [surveyed.agree.resolve_eq]
    rintro window mem rfl
    exact unhinged window mem (.inl found)
  exact ⟨(settled placed.viewport).trans viewport, (settled placed.columns).trans found⟩

theorem Started.fromLeft {scrollers : Scroller × Scroller} {whole : Grid × Page} {moved : Element} {call : Call}
    (started : grid.Started page scrollers whole) (inRange : page.InRange)
    (there : page.elements.get? scrollers.1.container.id = some moved)
    (start : (page.offset scrollers.2.container).x = 0) :
    FromLeft page scrollers.1 moved (whole.2.record call) := by
  have place := started.atStart
  refine ⟨place.content.elements, place.content.rules, ?_, there, ?_, ?_⟩
  · exact ((Like.refl (place.inRange inRange)).record).inRange
  · exact congrArg Offset.x place.rows
  · intro handle other
    by_cases own : handle = scrollers.2.container
    · rw [own, start]
      exact place.columns
    · exact congrArg Offset.x (place.content.offset handle fun either => either.elim other own)

/-- A header is searched for with the scroller of the rows, left of where the content ends once both containers are at
their starts. -/
theorem Surveyed.revealHeader_searches {titles : List String}
    (surveyed : grid.Surveyed page columns titles (learnt, after)) (sized : after.Sized grid.settings.scroll.step)
    (placed : grid.PlacesSettled page) (viewport : grid.rowContainerOn page = some rows)
    (found : grid.columnContainerOn page = some columns) (live : after.Live)
    (content : grid.contentRect after = .ok box) (title : String) :
    ∃ (scroller : Scroller) (moved : Element) (started : Page) (edge : Int), scroller.container = rows ∧
      scroller.settings = grid.settings.scroll ∧ FromLeft after scroller moved started ∧ box.right ≤ edge ∧
      ((Page.browser.revealHeader title).outcome (learnt, after)).1 =
        ((scroller.untilAccepted Page.browser .right (grid.headerPath title) (seeks .right edge)).outcome started).1.map
          fun _ => grid.headerPath title := by
  obtain ⟨rowsThere, columnsThere⟩ := surveyed.containers placed viewport found
  have inRange := surveyed.like.inRange
  have start : (after.offset columns).x = 0 := congrArg Offset.x surveyed.start
  obtain ⟨columnIds, rfl⟩ := surveyed.known
  let low := after.timed grid.settings.timeouts.during
  have like : after.Like low := (Like.refl inRange).of_same rfl rfl rfl
  obtain ⟨moved, liveRows⟩ := live.of_mem (List.mem_of_mem_head? rowsThere)
  obtain ⟨element, liveColumns⟩ := live.of_mem (List.mem_of_mem_head? columnsThere)
  have contained : ({ grid.located page with columnIds } : Grid).Contained low :=
    ⟨rows, columns, rowsThere, columnsThere, Option.isSome_of_eq_some liveRows, Option.isSome_of_eq_some liveColumns⟩
  obtain ⟨scrollers, started, starts, ended⟩ := outcome_revealHeader contained title
  have rowScroller : scrollers.1.container = rows := Option.some.inj (starts.rows.symm.trans rowsThere)
  have columnScroller : scrollers.2.container = columns := Option.some.inj (starts.columns.symm.trans columnsThere)
  have fromLeft : FromLeft low scrollers.1 moved (started.record (.find grid.regions.content.toXPath)) :=
    starts.fromLeft like.inRange (rowScroller ▸ liveRows) (columnScroller ▸ start)
  have stays : page.Settled (fun handle => handle = scrollers.1.container ∨ handle = scrollers.2.container)
      grid.regions.content := by
    rintro window mem (own | own)
    · exact placed.content window mem (.inr (viewport.trans (by rw [own, rowScroller])))
    · exact placed.content window mem (.inl (found.trans (by rw [own, columnScroller])))
  have settled : low.Settled (fun handle => handle = scrollers.1.container ∨ handle = scrollers.2.container)
      grid.regions.content := stays.of_rules surveyed.like.rules
  have nearer (handle : Handle) : (started.offset handle).x ≤ (low.offset handle).x := by
    by_cases own : handle = scrollers.1.container
    · rw [own]
      exact Int.le_trans (Int.le_of_eq fromLeft.start) (inRange.nonneg _).1
    · exact Int.le_of_eq (fromLeft.others handle own)
  have likeStarted : low.Like started := ⟨starts.atStart.content.elements, starts.atStart.content.rules,
    starts.atStart.inRange like.inRange⟩
  obtain ⟨measured, remeasured, wider⟩ := contentRect_wider (sized.of_elements like.elements) (.refl like.inRange)
    likeStarted starts.atStart.content settled nearer content
  refine ⟨scrollers.1, moved, _, measured.right, rowScroller, starts.rowSettings, ⟨fromLeft.elements, fromLeft.rules,
    fromLeft.inRange, fromLeft.there, fromLeft.start, fromLeft.others⟩, wider, ?_⟩
  rw [Browser.revealHeader, outcome_underTimeouts]
  exact ended measured remeasured

/-- After the columns have been discovered, a header that discovery came by would be found again by scrolling the
columns. The search that makes it visible scrolls the rows, though: it finds the header if rows and columns have one
container, or if the header is there without scrolling, and otherwise gives up. Steps and boxes must stay within 64
bits and the places of the grid must not come and go as it is scrolled, and the header is displayed left of the right
edge of the content and there in a stretch of the columns as wide as a step. -/
theorem revealHeader_after_discovery (grid learnt : Grid) (virtualized : grid.virtualized = true)
    (stallsFit : grid.settings.scroll.maxStalls < 0x100000000) (patient : 1 ≤ grid.settings.scroll.maxStalls)
    (forward : 0 < grid.settings.scroll.step) (page after : Page) (reachable : page.Reachable)
    (sized : page.Sized grid.settings.scroll.step) (live : page.Live) (placed : grid.PlacesSettled page)
    (rows columns : Handle) (container : Element)
    (viewport : grid.rowContainerOn page = some rows) (found : grid.columnContainerOn page = some columns)
    (there : page.elements.get? columns.id = some container) (ids : Keyed String)
    (discovered : Page.browser.findColumnIds.outcome (grid, page) = (.ok ids, learnt, after)) (box : Rect)
    (content : grid.contentRect after = .ok box) (title : String) (declared : title ∈ grid.titles)
    (laidOut : grid.HeaderLaidOut after title columns container box) :
    let header := grid.headerPath title
    let revealed := ((Page.browser.revealHeader title).outcome (learnt, after)).1
    (∃ handle, (((Scroller.mk columns grid.settings.scroll).untilAccepted Page.browser .right header
      (seeks .right box.right)).outcome after).1 = .ok handle) ∧
    (rows = columns ∨ after.resolve header.toXPath ≠ [] → revealed = .ok header) ∧
    (rows ≠ columns → after.resolve header.toXPath = [] →
      ∃ steps, revealed = .error (Scroller.exhausted header .right steps)) := by
  intro header revealed
  have surveyed :=
    surveyed_of_ok virtualized (List.ne_nil_of_mem declared) reachable.inRange found there sized stallsFit discovered
  have inRange := surveyed.like.inRange
  have start : (after.offset columns).x = 0 := congrArg Offset.x surveyed.start
  have live' : after.Live := live.of_rules surveyed.like.rules surveyed.like.elements
  have sized' : after.Sized grid.settings.scroll.step := sized.of_elements surveyed.like.elements
  have there' : after.elements.get? columns.id = some container := surveyed.like.elements ▸ there
  have names : after.Names header := (surveyed.headers title declared).of_rules surveyed.like.rules
  refine ⟨?_, ?_⟩
  · have fromLeft : FromLeft after ⟨columns, grid.settings.scroll⟩ container after :=
      ⟨rfl, rfl, inRange, there', start, fun _ _ => rfl⟩
    exact laidOut.found_by_columns rfl fromLeft inRange sized' live' stallsFit forward patient (Int.le_refl _) names
      rfl rfl start
  obtain ⟨scroller, moved, started, edge, own, settings, fromLeft, wider, ended⟩ :=
    surveyed.revealHeader_searches sized' placed viewport found live' content title
  refine ⟨?_, ?_⟩
  · intro reached
    have finds : ∃ handle, ((scroller.untilAccepted Page.browser .right header (seeks .right edge)).outcome started).1 =
        .ok handle := by
      by_cases same : rows = columns
      · have moves : moved = container := by
          have live := fromLeft.there
          rw [own.trans same, there'] at live
          exact (Option.some.inj live).symm
        exact laidOut.found_by_columns settings fromLeft inRange sized' live' stallsFit forward patient wider names
          (own.trans same) moves start
      · have other : columns ≠ scroller.container := fun equal => same (own.symm.trans equal.symm)
        exact laidOut.found_by_rows settings fromLeft inRange sized' live' stallsFit forward patient wider other
          (reached.resolve_left same)
    obtain ⟨handle, finds⟩ := finds
    exact ended.trans (by rw [finds]; rfl)
  · intro other hidden
    obtain ⟨steps, missed⟩ := laidOut.missed_by_rows settings fromLeft sized' live' stallsFit
      (fun equal => other (own.symm.trans equal.symm)) hidden
    exact ⟨steps, ended.trans (by rw [missed]; rfl)⟩

/-- A page on which one container scrolls both rows and columns, and whose second header is rendered only further to
the right. -/
def bandPage : Page :=
  let rows : Handle := ⟨"rows"⟩
  let named (id : String) : Keyed String := .ofList [(columnIdAttribute, id)]
  let framed := Page.add {} rows { rect := ⟨0, 30, 400, 200⟩, extent := ⟨600, 600⟩ }
  let filled := (framed.add ⟨"a"⟩ { attributes := named "a" }).add ⟨"b"⟩
    { attributes := named "b", rect := ⟨350, 0, 100, 20⟩, anchor := some rows }
  let placed := (filled.register shelfGrid.regions.content ⟨[rows], none⟩).register
    shelfGrid.regions.viewport ⟨[rows], none⟩
  (placed.register (shelfGrid.headerPath "A") ⟨[⟨"a"⟩], some (Direction.right.window rows 0 100)⟩).register
    (shelfGrid.headerPath "B") ⟨[⟨"b"⟩], some (Direction.right.window rows 300 600)⟩

theorem bandPage_reachable : bandPage.Reachable := by
  iterate 4 refine .change ?_ (.registerXPath _ _)
  iterate 3 refine .change ?_ (.add _ _ (by decide +kernel))
  exact .blank

theorem bandPage_settled : shelfGrid.PlacesSettled bandPage := by
  have windowless : ∀ path ∈ [shelfGrid.regions.content, shelfGrid.regions.viewport, shelfGrid.columnPlace bandPage],
      ∀ window ∈ bandPage.windows path, False := by
    decide +kernel
  constructor
  · exact fun window mem => (windowless _ (by simp) window mem).elim
  · exact fun window mem => (windowless _ (by simp) window mem).elim
  · exact fun window mem => (windowless _ (by simp) window mem).elim

theorem revealHeader_after_discovery_band :
    let discovered := Page.browser.findColumnIds.outcome (shelfGrid, bandPage)
    discovered.1 = .ok (.ofList [("A", "a"), ("B", "b")]) ∧
      ((Page.browser.revealHeader "B").outcome discovered.2).1 = .ok (shelfGrid.headerPath "B") := by
  have found : (Page.browser.findColumnIds.outcome (shelfGrid, bandPage)).1 = .ok (.ofList [("A", "a"), ("B", "b")]) ∧
      (Page.browser.findColumnIds.outcome (shelfGrid, bandPage)).2.2.rules = bandPage.rules ∧
      (Page.browser.findColumnIds.outcome (shelfGrid, bandPage)).2.2.elements = bandPage.elements ∧
      shelfGrid.contentRect (Page.browser.findColumnIds.outcome (shelfGrid, bandPage)).2.2 =
        .ok ⟨0, 30, 400, 200⟩ ∧
      (Page.browser.findColumnIds.outcome (shelfGrid, bandPage)).2.2.offset ⟨"rows"⟩ = ⟨0, 0⟩ := by
    decide +kernel
  generalize discovered : Page.browser.findColumnIds.outcome (shelfGrid, bandPage) = ended at found
  obtain ⟨result, learnt, after⟩ := ended
  obtain ⟨rfl, rules, elements, content, start⟩ := found
  refine ⟨rfl, ?_⟩
  have registered : after.rules.get? (shelfGrid.headerPath "B").toXPath =
      some [⟨[⟨"b"⟩], some (Direction.right.window ⟨"rows"⟩ 300 600)⟩] := by
    rw [show after.rules = bandPage.rules from rules]
    decide +kernel
  have laidOut : shelfGrid.HeaderLaidOut after "B" ⟨"rows"⟩ { rect := ⟨0, 30, 400, 200⟩, extent := ⟨600, 600⟩ }
      ⟨0, 30, 400, 200⟩ := by
    have only (handle : Handle) (element : Element)
        (among : after.Registered (shelfGrid.headerPath "B") handle element) :
        element =
          { attributes := .ofList [(columnIdAttribute, "b")], rect := ⟨350, 0, 100, 20⟩, anchor := some ⟨"rows"⟩ } := by
      obtain ⟨rules, found, ⟨rule, mem, named⟩, live⟩ := among
      rw [registered] at found
      cases found
      rw [List.mem_singleton.mp mem, List.mem_singleton] at named
      subst named
      rw [show after.elements = bandPage.elements from elements] at live
      exact Option.some.inj (live.symm.trans (by decide +kernel))
    constructor
    case windows =>
      intro rules found rule mem
      rw [registered] at found
      cases found
      rw [List.mem_singleton.mp mem]
      exact ⟨300, 600, rfl, by decide, by decide, by decide⟩
    case displayed => rintro handle element among; rw [only handle element among]
    case left =>
      rintro handle element among
      rw [only handle element among]
      show wrapped (350 - (after.offset ⟨"rows"⟩).x) < 400
      rw [show after.offset ⟨"rows"⟩ = ⟨0, 0⟩ from start]
      decide
  exact (revealHeader_after_discovery shelfGrid learnt rfl (by decide) (by decide) (by decide) bandPage after
    bandPage_reachable (.of_entries (by decide) (by decide +kernel)) (.of_entries (by decide +kernel))
    bandPage_settled ⟨"rows"⟩ ⟨"rows"⟩ _ (by decide +kernel) (by decide +kernel) (by decide +kernel) _ discovered
    ⟨0, 30, 400, 200⟩ content "B" (by decide) laidOut).2.1 (.inl rfl)

/-- Where columns have a container of their own, a header that discovery has found there is not found again. -/
theorem revealHeader_misses_discovered :
    let discovered := Page.browser.findColumnIds.outcome (shelfGrid, shelfPage)
    shelfPage.Reachable ∧ shelfPage.Live ∧ shelfGrid.virtualized = true ∧
      shelfGrid.settings.scroll = { step := 150, maxStalls := 2 } ∧
      shelfPage.windows shelfGrid.regions.content = [] ∧ shelfPage.windows shelfGrid.regions.viewport = [] ∧
      shelfGrid.columnContainerOn shelfPage = some ⟨"columns"⟩ ∧
      (shelfPage.elements.get? "columns").map Element.extent = some ⟨600, 0⟩ ∧
      discovered.1 = .ok (.ofList [("A", "a"), ("B", "b")]) ∧ "B" ∈ shelfGrid.titles ∧
      shelfPage.rules.get? (shelfGrid.headerPath "B").toXPath =
        some [⟨[⟨"b"⟩], some (Direction.right.window ⟨"columns"⟩ 300 600)⟩] ∧
      ((Page.browser.isDisplayed ⟨"b"⟩).outcome discovered.2.2).1 = .ok true ∧
      ((Page.browser.rect ⟨"b"⟩).outcome discovered.2.2).1 = .ok ⟨0, 0, 100, 20⟩ ∧
      shelfGrid.contentRect discovered.2.2 = .ok ⟨0, 30, 400, 200⟩ ∧
      ((Page.browser.revealHeader "B").outcome discovered.2).1 =
        .error (Scroller.exhausted (shelfGrid.headerPath "B") .right 2) := by
  intro discovered
  refine ⟨shelfPage_reachable, .of_entries (by decide +kernel), ?_⟩
  decide +kernel

end Grid

end Locator
