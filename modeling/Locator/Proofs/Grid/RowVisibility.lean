import Locator.Proofs.Grid.Sight

/-!
# Bringing a row into view

A row that counts as visible is left where it is; any other row is searched for from the top. Where the search ends
the row counts as visible, so that a second run has nothing to do. A search from the top does not go past the row,
but a row that has been scrolled past counts as visible as well.
-/

namespace Locator

open Locator.Action Locator.Page

set_option autoImplicit false

/-- The boxes overlap in height. -/
def Rect.Meets (rect box : Rect) : Prop :=
  box.y < rect.bottom ∧ rect.y < box.bottom

instance (rect box : Rect) : Decidable (rect.Meets box) :=
  inferInstanceAs (Decidable (_ ∧ _))

namespace Page

/-- Some match of the path counts as visible. -/
def Counts (page : Page) (path : Path) (direction : Direction) (edge : Int) : Prop :=
  ∃ found, page.firstBefore? path direction edge = .ok (some found)

/-- Some match of the path is displayed in the height of a box. -/
def inView (page : Page) (path : Path) (box : Rect) : Bool :=
  (page.resolve path.toXPath).any fun handle => (page.elements.get? handle.id).any fun element =>
    element.displayed && decide ((page.rect element).Meets box)

variable {page after : Page} {path : Path} {box : Rect}

theorem inView_iff : page.inView path box = true ↔
    ∃ handle ∈ page.resolve path.toXPath, ∃ element, page.elements.get? handle.id = some element ∧
      element.displayed = true ∧ (page.rect element).Meets box := by
  simp [inView, Option.any_eq_true]

theorem inView_of_same (same : Same page after) : after.inView path box = page.inView path box := by
  simp only [inView, same.resolve_same, same.elements, same.rect_eq]

end Page

namespace Grid

variable {grid learnt : Grid} {page after : Page} {index : Nat} {box : Rect} {path : Path}

/-- What is registered for the grid's content does not come and go, and is not placed on the content of a
container. -/
structure ContentFixed (grid : Grid) (page : Page) : Prop where
  unwindowed : ∀ rules, page.rules.get? grid.regions.content.toXPath = some rules → ∀ rule ∈ rules, rule.window = none
  unanchored : ∀ handle element, page.Registered grid.regions.content handle element → element.anchor = none

/-- The rows with this index are laid out on the content of the viewport, or are fixed, none above the box of the
grid's content as long as nothing is scrolled, and one that is in the height of the box is rendered. -/
structure RowsLaidOut (grid : Grid) (page : Page) (index : Nat) (rows : Handle) (box : Rect) : Prop where
  viewport : grid.rowContainerOn page = some rows
  live : ∀ handle rules, page.rules.get? (grid.rowPath index).toXPath = some rules →
    (∃ rule ∈ rules, handle ∈ rule.handles) → (page.elements.get? handle.id).isSome
  tall : ∀ handle element, page.Registered (grid.rowPath index) handle element → 0 < element.rect.height
  placed : ∀ handle element, page.Registered (grid.rowPath index) handle element →
    element.anchor = none ∨ element.anchor = some rows
  below : ∀ handle element, page.Registered (grid.rowPath index) handle element → box.y ≤ element.rect.y
  rendered : ∀ handle element, page.Registered (grid.rowPath index) handle element → ∀ scrolled, page.Like scrolled →
    (scrolled.rect element).Meets box → handle ∈ scrolled.resolve (grid.rowPath index).toXPath

/-- A run that reveals a row has ended like this. -/
inductive Revealed (grid : Grid) (page : Page) (index : Nat) (box : Rect) : Grid × Page → Prop where
  /-- The row counted as visible, and nothing has been scrolled. -/
  | shown (after : Page) (counts : page.Counts (grid.rowPath index) .down box.bottom) (same : Same page after) :
      Revealed grid page index box (grid, after)
  /-- No match of the row counted as visible, and it has been searched for from the top. -/
  | searched (scrollers : Scroller × Scroller) (found : Handle) (started reached after : Page)
      (nothing : page.firstBefore? (grid.rowPath index) .down box.bottom = .ok none)
      (start : grid.Started page scrollers (grid.located page, started))
      (ended : (scrollers.1.untilAccepted Page.browser .down (grid.rowPath index) (seeks .down box.bottom)).outcome
        started = (.ok found, reached))
      (same : Same reached after) : Revealed grid page index box (grid.located page, after)

/-! ## One run -/

/-- The search for a row from the top. -/
def revealFromTop (browser : Browser (Grid × Page)) (row : Path) (bottom : Int) : GridAction Page Path := do
  let scrollers ← atStart browser
  let _ ← scrollers.1.untilAccepted browser .down row (visible browser .down bottom)
  return row

theorem outcome_revealRow (grid : Grid) (page : Page) (index : Nat) :
    (revealRow Page.browser.besideGrid index).outcome (grid, page) =
      let measured := page.record (.find grid.regions.content.toXPath)
      let looked := measured.record (.findAll (grid.rowPath index).toXPath)
      match grid.contentRect page with
      | .error error => (.error error, grid, measured)
      | .ok box =>
          match page.firstBefore? (grid.rowPath index) .down box.bottom with
          | .error error => (.error error, grid, looked)
          | .ok (some _) => (.ok (grid.rowPath index), grid, looked)
          | .ok none =>
              (revealFromTop Page.browser.besideGrid (grid.rowPath index) box.bottom).outcome (grid, looked) := by
  have measured := outcome_contentBox grid page
  unfold revealRow
  rw [outcome_bind_of_ok (outcome_known _)]
  cases content : grid.contentRect page with
  | error error =>
      rw [content] at measured
      rw [outcome_bind_of_error measured]
  | ok box =>
      rw [content] at measured
      rw [outcome_bind_of_ok measured]
      have looked : (rowVisibleNow Page.browser.besideGrid (grid.rowPath index) box.bottom).outcome
          (grid, page.record (.find grid.regions.content.toXPath)) =
            ((page.firstBefore? (grid.rowPath index) .down box.bottom).map Option.isSome, _) :=
        outcome_rowVisibleNow _ _ _ _
      simp only
      cases shown : page.firstBefore? (grid.rowPath index) .down box.bottom with
      | error error =>
          rw [shown] at looked
          rw [outcome_bind_of_error looked]
      | ok first =>
          rw [shown] at looked
          rw [outcome_bind_of_ok looked]
          cases first with
          | some found => rfl
          | none =>
              unfold revealFromTop
              rw [atStart_bind]
              rfl

theorem outcome_revealRow_of_counts (content : grid.contentRect page = .ok box)
    (counts : page.Counts (grid.rowPath index) .down box.bottom) :
    (revealRow Page.browser.besideGrid index).outcome (grid, page) =
      (.ok (grid.rowPath index), grid,
        (page.record (.find grid.regions.content.toXPath)).record (.findAll (grid.rowPath index).toXPath)) := by
  obtain ⟨found, shown⟩ := counts
  rw [outcome_revealRow, content]
  simp only [shown]

theorem revealFromTop_concludes (nothing : page.firstBefore? (grid.rowPath index) .down box.bottom = .ok none) :
    Concludes (fun whole => whole = (grid, page))
      (revealFromTop Page.browser.besideGrid (grid.rowPath index) box.bottom)
      (fun path whole => path = grid.rowPath index ∧ grid.Revealed page index box whole) fun _ _ => True := by
  apply ((atStart_concludes grid page).weaken (fun _ _ started => started) fun _ _ _ => trivial).bind
  rintro scrollers ⟨_, started⟩ start
  obtain rfl := start.located
  have searches := Concludes.alone (untilVisible_beside (grid.located page) scrollers.1 .down (grid.rowPath index)
    box.bottom) started
  refine Concludes.bind (searches.weaken (fun _ _ ended => ended) fun _ _ _ => trivial) ?_ _ rfl
  rintro found ⟨_, reached⟩ ⟨rfl, ended⟩
  exact ⟨rfl, .searched scrollers found started reached reached nothing start ended (.refl reached)⟩

theorem Revealed.of_same {sought : Page} {whole : Grid × Page} (revealed : grid.Revealed sought index box whole)
    (same : Same page sought) : grid.Revealed page index box whole := by
  cases revealed with
  | shown after counts left =>
      obtain ⟨found, shown⟩ := counts
      exact .shown after ⟨found, same.firstBefore?_eq ▸ shown⟩ (same.trans left)
  | searched scrollers found started reached after nothing start ended left =>
      rw [same.firstBefore?_eq] at nothing
      have located : grid.located sought = grid.located page := by rw [located, located, columnPlace_of_same same]
      rw [located] at start ⊢
      exact .searched scrollers found started reached after nothing (start.of_same same) ended left

theorem revealRow_concludes (grid : Grid) (page : Page) (index : Nat) :
    Concludes (fun whole => whole = (grid, page)) (revealRow Page.browser.besideGrid index)
      (fun path whole => path = grid.rowPath index ∧ ∃ box, grid.contentRect page = .ok box ∧
        grid.Revealed page index box whole) fun _ _ => True := by
  rintro _ rfl
  rw [outcome_revealRow]
  have same : Same page ((page.record (.find grid.regions.content.toXPath)).record
      (.findAll (grid.rowPath index).toXPath)) := (AgreeOff.refl page).recorded.recorded
  cases content : grid.contentRect page with
  | error error => trivial
  | ok box =>
      simp only
      cases shown : page.firstBefore? (grid.rowPath index) .down box.bottom with
      | error error => trivial
      | ok first =>
          cases first with
          | some found => exact ⟨rfl, box, rfl, .shown _ ⟨found, shown⟩ same⟩
          | none =>
              rw [← same.firstBefore?_eq] at shown
              refine (revealFromTop_concludes shown).weaken ?_ (fun _ _ _ => trivial) _ rfl
              rintro path whole ⟨rfl, revealed⟩
              exact ⟨rfl, box, rfl, revealed.of_same same⟩

theorem Revealed.timed (revealed : grid.Revealed page index box (learnt, after)) (milliseconds : Nat) :
    grid.Revealed page index box (learnt, after.timed milliseconds) := by
  cases revealed with
  | shown _ counts same => exact .shown _ counts (same.timed milliseconds)
  | searched scrollers found started reached _ nothing start ended same =>
      exact .searched scrollers found started reached _ nothing start ended (same.timed milliseconds)

/-- A run with its timeouts ends like one without. -/
theorem revealed_of_ok (revealed : (Page.browser.revealRow index).outcome (grid, page) = (.ok path, learnt, after)) :
    path = grid.rowPath index ∧ ∃ box, grid.contentRect page = .ok box ∧
      grid.Revealed page index box (learnt, after) := by
  have concludes := revealRow_concludes grid (page.timed grid.settings.timeouts.during) index _ rfl
  rw [Browser.revealRow, outcome_underTimeouts] at revealed
  generalize (revealRow Page.browser.besideGrid index).outcome
    (grid, page.timed grid.settings.timeouts.during) = ended at revealed concludes
  obtain ⟨result, now, reached⟩ := ended
  cases revealed
  obtain ⟨same, box, content, revealed⟩ := concludes
  exact ⟨same, box, content, (revealed.of_same ((AgreeOff.refl page).timed _)).timed _⟩

/-! ## Two runs -/

theorem ContentFixed.contentRect_eq {loose : Handle → Prop} (fixed : grid.ContentFixed page)
    (agree : AgreeOff loose page after) : grid.contentRect after = grid.contentRect page := by
  have resolved := resolve_eq_of_unwindowed fixed.unwindowed agree.rules
  unfold contentRect Page.found first?
  rw [resolved]
  cases there : page.resolve grid.regions.content.toXPath with
  | nil => rfl
  | cons content others =>
      simp only [List.head?_cons, bind, Except.bind, element?, agree.elements]
      cases live : page.elements.get? content.id with
      | none => rfl
      | some element =>
          have unanchored := fixed.unanchored content element (registered_of_mem (there ▸ List.mem_cons_self) live)
          simp only [Except.map, rect, unanchored]

/-- Whichever way a row has been revealed, it counts as visible now. -/
theorem Revealed.rests (revealed : grid.Revealed page index box (learnt, after)) :
    AgreeOff (fun _ => True) page after ∧ after.Counts (grid.rowPath index) .down box.bottom := by
  cases revealed with
  | shown _ counts same =>
      obtain ⟨found, shown⟩ := counts
      exact ⟨same.mono fun _ => False.elim, found, same.firstBefore?_eq.trans shown⟩
  | searched scrollers found started reached _ nothing start ended same =>
      have search : Concludes (AgreeOff (fun _ => True) page)
          (scrollers.1.untilAccepted Page.browser .down (grid.rowPath index) (seeks .down box.bottom)) _ _ :=
        untilAccepted_seeks trivial .down _ _
      have searched := search started (start.atStart.content.mono fun _ _ => trivial)
      rw [ended] at searched
      exact ⟨searched.1.trans (same.mono fun _ => False.elim), found, same.firstBefore?_eq.trans searched.2⟩

theorem Revealed.learns (revealed : grid.Revealed page index box (learnt, after)) :
    learnt = grid ∨ learnt = grid.located page := by
  cases revealed with
  | shown => exact .inl rfl
  | searched => exact .inr rfl

/-- A row that has been revealed is revealed already: a second run ends with the same path, finds the content of the
grid and looks up the row under its own timeouts, and scrolls nothing. The content of the grid must not come and go,
nor be placed on the content of a container. -/
theorem revealRow_idempotent (grid learnt : Grid) (page after : Page) (index : Nat) (path : Path)
    (fixed : grid.ContentFixed page)
    (revealed : (Page.browser.revealRow index).outcome (grid, page) = (.ok path, learnt, after)) :
    ∃ final, (Page.browser.revealRow index).outcome (learnt, after) = (.ok path, learnt, final) ∧
      final.offsets = after.offsets ∧ final.elements = after.elements ∧ final.rules = after.rules ∧
      ∃ calls, final.log = calls ++ after.log ∧
        ∀ call ∈ calls, call.method ≠ "scroll_by" ∧ call.method ≠ "scroll_to" := by
  obtain ⟨rfl, box, content, revealed⟩ := revealed_of_ok revealed
  obtain ⟨agree, counts⟩ := revealed.rests
  have again : learnt.contentRect after = .ok box ∧ learnt.rowPath index = grid.rowPath index := by
    have stays := (fixed.contentRect_eq agree).trans content
    rcases revealed.learns with rfl | rfl
    · exact ⟨stays, rfl⟩
    · exact ⟨stays, rfl⟩
  have low : Same after (after.timed learnt.settings.timeouts.during) := (AgreeOff.refl after).timed _
  have stays : learnt.contentRect (after.timed learnt.settings.timeouts.during) = .ok box := again.1
  obtain ⟨found, shown⟩ := counts
  rw [← low.firstBefore?_eq, ← again.2] at shown
  rw [Browser.revealRow, outcome_underTimeouts, outcome_revealRow_of_counts stays ⟨found, shown⟩, again.2]
  refine ⟨_, rfl, rfl, rfl, rfl, [.setImplicitTimeout _, .findAll _, .find _, .setImplicitTimeout _], rfl, ?_⟩
  simp [Call.method]

/-- A page whose row 9 is rendered only while it is near the part in view, and whose row 0 always is. -/
def stripPage : Page :=
  let rows : Handle := ⟨"rows"⟩
  let framed := Page.add {} rows { rect := ⟨0, 30, 400, 200⟩, extent := ⟨0, 600⟩ }
  let filled := (framed.add ⟨"first"⟩ { rect := ⟨0, 40, 400, 20⟩, anchor := some rows }).add ⟨"tenth"⟩
    { rect := ⟨0, 400, 400, 20⟩, anchor := some rows }
  let placed := (filled.register shelfGrid.regions.content ⟨[rows], none⟩).register
    shelfGrid.regions.viewport ⟨[rows], none⟩
  (placed.register (shelfGrid.rowPath 0) ⟨[⟨"first"⟩], none⟩).register
    (shelfGrid.rowPath 9) ⟨[⟨"tenth"⟩], some (Direction.down.window rows 150 600)⟩

theorem stripPage_reachable : stripPage.Reachable := by
  iterate 4 refine .change ?_ (.registerXPath _ _)
  iterate 3 refine .change ?_ (.add _ _ (by decide +kernel))
  exact .blank

theorem stripPage_fixed : shelfGrid.ContentFixed stripPage := by
  have registered : stripPage.rules.get? shelfGrid.regions.content.toXPath = some [⟨[⟨"rows"⟩], none⟩] := by
    decide +kernel
  constructor
  · intro rules found rule mem
    rw [registered] at found
    cases found
    rw [List.mem_singleton.mp mem]
  · rintro handle element ⟨rules, found, ⟨rule, mem, named⟩, live⟩
    rw [registered] at found
    cases found
    rw [List.mem_singleton.mp mem, List.mem_singleton] at named
    subst named
    rw [show stripPage.elements.get? "rows" = some { rect := ⟨0, 30, 400, 200⟩, extent := ⟨0, 600⟩ } by
      decide +kernel] at live
    cases live
    rfl

theorem revealRow_idempotent_strip :
    let (first, learnt, page) := (Page.browser.revealRow 9).outcome (shelfGrid, stripPage)
    let (second, _, after) := (Page.browser.revealRow 9).outcome (learnt, page)
    first = .ok (shelfGrid.rowPath 9) ∧ second = first ∧ page.offset ⟨"rows"⟩ = ⟨0, 300⟩ ∧
      after.offset ⟨"rows"⟩ = ⟨0, 300⟩ := by
  have found : ((Page.browser.revealRow 9).outcome (shelfGrid, stripPage)).1 = .ok (shelfGrid.rowPath 9) ∧
      ((Page.browser.revealRow 9).outcome (shelfGrid, stripPage)).2.2.offset ⟨"rows"⟩ = ⟨0, 300⟩ := by
    decide +kernel
  generalize revealed : (Page.browser.revealRow 9).outcome (shelfGrid, stripPage) = ended at found
  obtain ⟨result, learnt, page⟩ := ended
  obtain ⟨rfl, place⟩ : result = .ok (shelfGrid.rowPath 9) ∧ page.offset ⟨"rows"⟩ = ⟨0, 300⟩ := found
  obtain ⟨final, again, offsets, _⟩ :=
    revealRow_idempotent shelfGrid learnt stripPage page 9 _ stripPage_fixed revealed
  simp only [again, true_and]
  exact ⟨place, (by rw [Page.offset, offsets]; exact place)⟩

/-! ## The height of the content -/

/-- A search from the top stands, at the first stop at which a row starts above the lower edge of a box, where it
does not start above the upper edge, as long as steps are no longer than the box is high. -/
theorem stop_not_past {range step top low place : Int} {steps : Nat} (nonneg : 0 ≤ range) (below : top ≤ place)
    (short : step ≤ low - top) (before : ∀ earlier < steps, low ≤ place - stop range 0 step earlier) :
    top ≤ place - stop range 0 step steps := by
  by_cases forward : 0 < step
  · cases steps with
    | zero =>
        rw [stop_zero (Int.le_refl 0) nonneg]
        omega
    | succ last =>
        have missed := before last (Nat.lt_succ_self last)
        have further : stop range 0 step (last + 1) ≤ stop range 0 step last + step := stop_succ_le forward last
        omega
  · have back : (steps : Int) * step ≤ 0 := Int.mul_nonpos_of_nonneg_of_nonpos (Int.natCast_nonneg _) (by omega)
    rw [stop, if_neg forward]
    omega

section Search

variable {scroller : Scroller} {started : Page} {viewport : Element} {visited : Nat → Page} {handle : Handle}
  {element : Element} {steps : Nat}

/-- Where a row stands that is on the content of the viewport. -/
theorem rect_at_stop (sized : page.Sized scroller.settings.step) (like : page.Like after)
    (there : page.elements.get? handle.id = some element) (top : started.offset scroller.container = .zero)
    (anchored : element.anchor = some scroller.container)
    (stood : scroller.Stands .down started viewport steps after) :
    (after.rect element).y =
      element.rect.y - stop (max 0 viewport.extent.y) 0 scroller.settings.step steps := by
  have place := stood.offset scroller.container
  rw [if_pos rfl] at place
  rw [rect_eq sized like there, shift_of_anchored anchored, place]
  simp only [Rect.shifted, Direction.moved, Scroller.stop, top]
  rfl

theorem rect_height (page : Page) (element : Element) : (page.rect element).height = element.rect.height := by
  unfold rect
  split <;> rfl

theorem same_of_stands {current other : Page} (stood : scroller.Stands .down started viewport steps current)
    (stood' : scroller.Stands .down started viewport steps other) : Same current other :=
  ⟨stood'.elements.trans stood.elements.symm, stood'.rules.trans stood.rules.symm,
    fun handle _ => (stood'.offset handle).trans (stood.offset handle).symm⟩

/-- Where a search from the top accepts a row, the row is in the height of the box. -/
theorem RowsLaidOut.inView_of_found (laidOut : grid.RowsLaidOut page index scroller.container box)
    (sized : page.Sized scroller.settings.step) (framed : box.EdgesKept) (like : page.Like started)
    (top : started.offset scroller.container = .zero)
    (live : started.elements.get? scroller.container.id = some viewport)
    (short : scroller.settings.step ≤ box.height)
    (stood : ∀ earlier ≤ steps, scroller.Stands .down started viewport earlier (visited earlier))
    (missed : ∀ earlier < steps, ∀ handle ∈ (visited earlier).resolve (grid.rowPath index).toXPath, ∀ element,
      page.elements.get? handle.id = some element → (visited earlier).startsBefore .down box.bottom element = false)
    (mem : handle ∈ (visited steps).resolve (grid.rowPath index).toXPath)
    (there : page.elements.get? handle.id = some element)
    (accepted : (visited steps).startsBefore .down box.bottom element = true) :
    (visited steps).inView (grid.rowPath index) box = true := by
  have likes {earlier : Nat} (upTo : earlier ≤ steps) : page.Like (visited earlier) :=
    ⟨(stood earlier upTo).elements.trans like.elements, (stood earlier upTo).rules.trans like.rules,
      (stood earlier upTo).inRange like.inRange live⟩
  have same := likes (Nat.le_refl steps)
  have registered : page.Registered (grid.rowPath index) handle element := by
    obtain ⟨rules, found, named, live⟩ := registered_of_mem mem (same.elements ▸ there)
    exact ⟨rules, same.rules ▸ found, named, there⟩
  obtain ⟨displayed, above⟩ := startsBefore_iff.mp accepted
  have tall := laidOut.tall handle element registered
  have below := laidOut.below handle element registered
  have lower := framed.bottom_eq
  rw [inView_iff]
  refine ⟨handle, mem, element, same.elements ▸ there, displayed, ?_, above⟩
  rcases laidOut.placed handle element registered with fixed | anchored
  · rw [(rect_kept sized same there).bottom_eq]
    simp only [rect, fixed]
    omega
  · have nonneg : (0 : Int) ≤ max 0 viewport.extent.y := Int.le_max_left _ _
    -- The row does not start above the lower edge before: it would have been rendered, and accepted.
    have later (earlier : Nat) (before : earlier < steps) :
        box.bottom ≤ element.rect.y - stop (max 0 viewport.extent.y) 0 scroller.settings.step earlier := by
      induction earlier using Nat.strong_induction_on with
      | _ earlier ih =>
          by_contra early
          have from_top := stop_not_past nonneg below (by omega) fun first lower => ih first lower (by omega)
          have place := rect_at_stop sized (likes (by omega)) there top anchored (stood earlier (by omega))
          have meets : ((visited earlier).rect element).Meets box := by
            unfold Rect.Meets
            rw [(rect_kept sized (likes (by omega)) there).bottom_eq, rect_height, place]
            omega
          have rendered := laidOut.rendered handle element registered _ (likes (by omega)) meets
          have refused := missed earlier before handle rendered element there
          rw [startsBefore_iff.mpr ⟨displayed, meets.2⟩] at refused
          cases refused
    have from_top := stop_not_past nonneg below (by omega) later
    rw [(rect_kept sized same there).bottom_eq, rect_height,
      rect_at_stop sized same there top anchored (stood steps (Nat.le_refl _))]
    omega

theorem RowsLaidOut.inView_of_searched (laidOut : grid.RowsLaidOut page index scroller.container box)
    (sized : page.Sized scroller.settings.step) (framed : box.EdgesKept) (like : page.Like started)
    (stallsFit : scroller.settings.maxStalls < 0x100000000) (top : started.offset scroller.container = .zero)
    (live : started.elements.get? scroller.container.id = some viewport)
    (short : scroller.settings.step ≤ box.height)
    (ended : (scroller.untilAccepted Page.browser .down (grid.rowPath index) (seeks .down box.bottom)).outcome started =
      (.ok handle, after)) : after.inView (grid.rowPath index) box = true := by
  have alive : ∀ rules, started.rules.get? (grid.rowPath index).toXPath = some rules → ∀ rule ∈ rules,
      ∀ handle ∈ rule.handles, ∃ element, started.elements.get? handle.id = some element := by
    intro rules found rule mem handle named
    rw [like.rules] at found
    rw [like.elements]
    exact Option.isSome_iff_exists.mp (laidOut.live handle rules found ⟨rule, mem, named⟩)
  obtain ⟨visited, ends⟩ := untilAccepted_seeks_ends like.inRange live (sized.of_elements like.elements) stallsFit .down
    (grid.rowPath index) box.bottom alive
  rw [ended] at ends
  cases ends with
  | found steps _ _ inTime stood missed here left =>
      have elements {earlier : Nat} (upTo : earlier ≤ steps) : (visited earlier).elements = page.elements :=
        (stood earlier upTo).elements.trans like.elements
      have accepted := List.find?_some here
      have mem := List.mem_of_find?_eq_some here
      simp only [elements (Nat.le_refl steps)] at accepted
      cases there : page.elements.get? handle.id with
      | none => simp [there] at accepted
      | some element =>
          rw [there, Option.map_some, Option.getD_some] at accepted
          have refused : ∀ earlier < steps, ∀ handle ∈ (visited earlier).resolve (grid.rowPath index).toXPath,
              ∀ element, page.elements.get? handle.id = some element →
                (visited earlier).startsBefore .down box.bottom element = false := by
            intro earlier before handle mem element there
            have none := List.find?_eq_none.mp (missed earlier before) handle mem
            simpa [elements (Nat.le_of_lt before), there] using none
          rw [inView_of_same (same_of_stands (stood steps (Nat.le_refl _)) left)]
          exact laidOut.inView_of_found sized framed like top live short stood refused mem there accepted

end Search

theorem Revealed.inView_iff {rows : Handle} (revealed : grid.Revealed page index box (learnt, after))
    (laidOut : grid.RowsLaidOut page index rows box) (inRange : page.InRange)
    (sized : page.Sized grid.settings.scroll.step) (framed : box.EdgesKept)
    (stallsFit : grid.settings.scroll.maxStalls < 0x100000000) (short : grid.settings.scroll.step ≤ box.height) :
    after.inView (grid.rowPath index) box = true ↔
      (page.Counts (grid.rowPath index) .down box.bottom → page.inView (grid.rowPath index) box = true) := by
  cases revealed with
  | shown _ counts same =>
      rw [inView_of_same same]
      exact ⟨fun inView _ => inView, fun inView => inView counts⟩
  | searched scrollers found started reached _ nothing start ended same =>
      have container : rows = scrollers.1.container := Option.some.inj (laidOut.viewport.symm.trans start.rows)
      have like : page.Like started :=
        ⟨start.atStart.content.elements, start.atStart.content.rules, start.atStart.inRange inRange⟩
      obtain ⟨viewport, live⟩ := start.atStart.liveRows
      rw [← start.rowSettings] at sized stallsFit short
      have inView := (container ▸ laidOut).inView_of_searched sized framed like stallsFit start.atStart.rows
        (like.elements ▸ live) short ended
      rw [inView_of_same same]
      refine ⟨fun _ counts => ?_, fun _ => inView⟩
      obtain ⟨other, shown⟩ := counts
      rw [nothing] at shown
      cases shown

/-- On a page on which steps and boxes stay within 64 bits, a run that reveals a row ends where some match of it is
displayed and starts above the lower edge that the grid's content had at first, and where the row counted as visible
before, nothing has been scrolled. Hence, where rows are laid out from the top of the content on and steps are no
longer than it is high, the row is in view then, unless it counted as visible without being in view: a row that has
been scrolled past stays out of view. -/
theorem revealRow_leaves_in_view (grid learnt : Grid) (page after : Page) (reachable : page.Reachable)
    (sized : page.Sized grid.settings.scroll.step) (stallsFit : grid.settings.scroll.maxStalls < 0x100000000)
    (index : Nat) (path : Path)
    (revealed : (Page.browser.revealRow index).outcome (grid, page) = (.ok path, learnt, after)) :
    path = grid.rowPath index ∧ ∃ box, grid.contentRect page = .ok box ∧
      (∃ found ∈ after.resolve path.toXPath, ∃ element, after.elements.get? found.id = some element ∧
        element.displayed = true ∧ (after.rect element).y < box.bottom) ∧
      (page.Counts path .down box.bottom → Same page after) ∧
      ∀ rows, grid.ContentFixed page → grid.RowsLaidOut page index rows box → grid.settings.scroll.step ≤ box.height →
        learnt.contentRect after = .ok box ∧
        (after.inView path box = true ↔ (page.Counts path .down box.bottom → page.inView path box = true)) := by
  obtain ⟨rfl, box, content, revealed⟩ := revealed_of_ok revealed
  refine ⟨rfl, box, content, ?_, ?_, fun rows fixed laidOut short => ⟨?_, ?_⟩⟩
  · obtain ⟨agree, found, shown⟩ := revealed.rests
    obtain ⟨mem, element, live, starts⟩ := firstBefore?_eq_some shown
    exact ⟨found, mem, element, live, startsBefore_iff.mp starts⟩
  · rintro ⟨found, shown⟩
    cases revealed with
    | shown _ _ same => exact same
    | searched _ _ _ _ _ nothing =>
        rw [nothing] at shown
        cases shown
  · have stays := (fixed.contentRect_eq revealed.rests.1).trans content
    rcases revealed.learns with rfl | rfl
    · exact stays
    · exact stays
  · obtain ⟨content, element, _, live, rfl⟩ := contentRect_eq_ok_iff.mp content
    have framed := rect_kept sized (.refl reachable.inRange) live
    exact revealed.inView_iff laidOut reachable.inRange sized framed stallsFit short

theorem stripPage_laidOut : shelfGrid.RowsLaidOut stripPage 9 ⟨"rows"⟩ ⟨0, 30, 400, 200⟩ := by
  have registered : stripPage.rules.get? (shelfGrid.rowPath 9).toXPath =
      some [⟨[⟨"tenth"⟩], some (Direction.down.window ⟨"rows"⟩ 150 600)⟩] := by decide +kernel
  have there : stripPage.elements.get? "tenth" = some { rect := ⟨0, 400, 400, 20⟩, anchor := some ⟨"rows"⟩ } := by
    decide +kernel
  have only (handle : Handle) (element : Element) (among : stripPage.Registered (shelfGrid.rowPath 9) handle element) :
      handle = ⟨"tenth"⟩ ∧ element = { rect := ⟨0, 400, 400, 20⟩, anchor := some ⟨"rows"⟩ } := by
    obtain ⟨rules, found, ⟨rule, mem, named⟩, live⟩ := among
    rw [registered] at found
    cases found
    rw [List.mem_singleton.mp mem, List.mem_singleton] at named
    subst named
    rw [there] at live
    exact ⟨rfl, (Option.some.inj live).symm⟩
  constructor
  case viewport => decide +kernel
  case live =>
    rintro handle rules found ⟨rule, mem, named⟩
    rw [registered] at found
    cases found
    rw [List.mem_singleton.mp mem, List.mem_singleton] at named
    subst named
    rw [there]
    rfl
  case tall => rintro handle element among; rw [(only handle element among).2]; decide
  case placed => rintro handle element among; rw [(only handle element among).2]; exact .inr rfl
  case below => rintro handle element among; rw [(only handle element among).2]; decide
  case rendered =>
    intro handle element among scrolled like meets
    obtain ⟨rfl, rfl⟩ := only handle element among
    have viewport : scrolled.elements.get? "rows" = some { rect := ⟨0, 30, 400, 200⟩, extent := ⟨0, 600⟩ } := by
      rw [like.elements]
      decide +kernel
    obtain ⟨_, _, highest, lowest⟩ := like.inRange.live ⟨"rows"⟩ _ viewport
    simp only [Rect.Meets, rect, Rect.bottom, wrapped] at meets lowest
    have least : 150 ≤ (scrolled.offset ⟨"rows"⟩).y := by omega
    have greatest : (scrolled.offset ⟨"rows"⟩).y ≤ 600 := by omega
    have near : scrolled.windowHolds (Direction.down.window ⟨"rows"⟩ 150 600) = true := by
      simp [windowHolds, Direction.window, Span.contains, Span.between, least, greatest]
    rw [resolve, like.rules, registered, mem_firstMentions]
    exact List.mem_flatMap.mpr ⟨_, List.mem_filter.mpr ⟨List.mem_singleton_self _, near⟩, List.mem_cons_self⟩

theorem revealRow_leaves_in_view_strip :
    let (result, _, after) := (Page.browser.revealRow 9).outcome (shelfGrid, stripPage)
    result = .ok (shelfGrid.rowPath 9) ∧ after.inView (shelfGrid.rowPath 9) ⟨0, 30, 400, 200⟩ = true := by
  have found : ((Page.browser.revealRow 9).outcome (shelfGrid, stripPage)).1 = .ok (shelfGrid.rowPath 9) := by
    decide +kernel
  generalize revealed : (Page.browser.revealRow 9).outcome (shelfGrid, stripPage) = ended at found
  obtain ⟨result, learnt, after⟩ := ended
  obtain rfl : result = _ := found
  obtain ⟨_, box, content, _, _, inView⟩ := revealRow_leaves_in_view shelfGrid learnt stripPage after
    stripPage_reachable (.of_entries (by decide) (by decide +kernel)) (by decide) 9 _ revealed
  obtain rfl : ⟨0, 30, 400, 200⟩ = box := Except.ok.inj ((show _ = _ by decide +kernel).trans content)
  refine ⟨rfl, (inView ⟨"rows"⟩ stripPage_fixed stripPage_laidOut (by decide)).2.mpr ?_⟩
  rintro ⟨other, shown⟩
  have nothing : stripPage.firstBefore? (shelfGrid.rowPath 9) .down (Rect.bottom ⟨0, 30, 400, 200⟩) = .ok none := by
    decide +kernel
  cases nothing.symm.trans shown

/-- The same page, scrolled past its first row. -/
def passedPage : Page :=
  ((Page.browser.scrollTo ⟨"rows"⟩ none (some 300)).outcome stripPage).2

/-- A row that has been scrolled past counts as visible, and stays above the content. -/
theorem revealRow_leaves_out_of_view :
    let ended := (Page.browser.revealRow 0).outcome (shelfGrid, passedPage)
    passedPage.Reachable ∧ passedPage.Live ∧ ended.1 = .ok (shelfGrid.rowPath 0) ∧
      ended.2.1.contentRect ended.2.2 = .ok ⟨0, 30, 400, 200⟩ ∧ shelfGrid.settings.scroll.step ≤ 200 ∧
      ended.2.2.resolve (shelfGrid.rowPath 0).toXPath = [⟨"first"⟩] ∧
      ((Page.browser.rect ⟨"first"⟩).outcome ended.2.2).1 = .ok ⟨0, -260, 400, 20⟩ ∧
      ended.2.2.inView (shelfGrid.rowPath 0) ⟨0, 30, 400, 200⟩ = false := by
  intro ended
  refine ⟨.change stripPage_reachable (.scrollTo _ _ _), .of_entries (by decide +kernel), ?_⟩
  decide +kernel

end Grid

end Locator
