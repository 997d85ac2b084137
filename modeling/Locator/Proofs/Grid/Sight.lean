import Locator.Proofs.Grid.Start
import Locator.Proofs.Page.Scrolling

/-!
# What a grid takes for visible

A row or a header counts as visible once it is displayed and starts before an edge of the content: a row before the
lower edge, a header before the right one. Whether it ends before the opposite edge is not asked, which is enough
only for a search that begins with both containers at their starts.
-/

namespace Locator

open Locator.Action

set_option autoImplicit false

/-- Where the box starts on the axis of a direction. -/
def Rect.start : Direction → Rect → Int
  | .down, rect => rect.y
  | .right, rect => rect.x

/-- What comes after an action may only read what it has left. -/
theorem Action.outcome_bind_reads {State Value Result : Type} {action : Action State Value}
    {next : Value → Action State Result} {answer : Value → Except Error Result} {state after : State}
    {result : Except Error Value} (ended : action.outcome state = (result, after))
    (reads : ∀ value, (next value).outcome after = (answer value, after)) :
    (action >>= next).outcome state = (result >>= answer, after) := by
  cases result with
  | error error => exact outcome_bind_of_error ended
  | ok value => exact (outcome_bind_of_ok ended).trans (reads value)

/-! ## Asking about handles in turn -/

/-- What is found by asking has been accepted. -/
theorem findM?_eq_some {ask : Handle → Except Error Bool} {handles : List Handle} {found : Handle}
    (asked : handles.findM? ask = .ok (some found)) : found ∈ handles ∧ ask found = .ok true := by
  induction handles with
  | nil => cases asked
  | cons candidate others ih =>
      cases answer : ask candidate with
      | error error =>
          simp only [List.findM?, answer] at asked
          cases asked
      | ok accepted =>
          cases accepted with
          | true =>
              simp only [List.findM?, answer] at asked
              cases asked
              exact ⟨List.mem_cons_self, answer⟩
          | false =>
              simp only [List.findM?, answer] at asked
              obtain ⟨mem, holds⟩ := ih asked
              exact ⟨List.mem_cons_of_mem _ mem, holds⟩

theorem Scroller.outcome_firstAccepted {State : Type} {accept : Handle → Action State Bool}
    {answer : Handle → State → Except Error Bool}
    (reads : ∀ candidate state, (accept candidate).outcome state = (answer candidate state, state)) (state : State)
    (candidates : List Handle) :
    (firstAccepted accept candidates).outcome state = (candidates.findM? fun handle => answer handle state, state) := by
  induction candidates with
  | nil => rfl
  | cons candidate others ih =>
      have rest (accepted : Bool) : Action.outcome (do
          if accepted then return some candidate
          firstAccepted accept others) state =
          ((if accepted then pure (some candidate) else others.findM? fun handle => answer handle state), state) := by
        cases accepted with
        | true => rfl
        | false => exact ih
      rw [firstAccepted, outcome_bind_reads (reads candidate state) rest, List.findM?]
      congr 2
      funext accepted
      cases accepted <;> rfl

/-- What an action does beside a grid is what it does alone. -/
theorem Action.outcome_beside {State Value : Type} {left : Action State Value} {right : GridAction State Value}
    {grid : Grid} (alike : Alike (fun state whole => whole = (grid, state)) left right) {state after : State}
    {result : Except Error Value} (ended : left.outcome state = (result, after)) :
    right.outcome (grid, state) = (result, grid, after) := by
  obtain ⟨ending, final⟩ := alike state _ rfl
  rw [ended] at ending final
  exact Prod.ext ending.symm final

theorem Action.Concludes.alone {State Value : Type} {left : Action State Value} {right : GridAction State Value}
    {grid : Grid} (alike : Alike (fun state whole => whole = (grid, state)) left right) (state : State) :
    Concludes (fun whole => whole = (grid, state)) right
      (fun value whole => whole.1 = grid ∧ left.outcome state = (.ok value, whole.2))
      fun error whole => whole.1 = grid ∧ left.outcome state = (.error error, whole.2) := by
  rintro _ rfl
  cases ended : left.outcome state with
  | mk result after =>
      rw [outcome_beside alike ended]
      cases result with
      | error error => exact ⟨rfl, rfl⟩
      | ok value => exact ⟨rfl, rfl⟩

namespace Page

/-- The element is displayed and starts before an edge. -/
def startsBefore (direction : Direction) (edge : Int) (page : Page) (element : Element) : Bool :=
  element.displayed && decide ((page.rect element).start direction < edge)

/-- The first match of a path, or the error that there is none. -/
def found (page : Page) (path : Path) : Except Error Handle :=
  match page.first? path with
  | none => .error ⟨.notFound, path.toXPath⟩
  | some handle => .ok handle

/-- The first match of a path that starts before an edge. A stale match is an error unless one before it will do. -/
def firstBefore? (page : Page) (path : Path) (direction : Direction) (edge : Int) : Except Error (Option Handle) :=
  (page.resolve path.toXPath).findM? fun handle => (page.element? handle).map (page.startsBefore direction edge)

/-- What a search in a direction asks of each match. -/
def seeks (direction : Direction) (edge : Int) (handle : Handle) : Action Page Bool :=
  onElement handle (startsBefore direction edge)

/-- The page once the implicit timeout has been set. -/
def timed (page : Page) (milliseconds : Nat) : Page :=
  { page.record (.setImplicitTimeout milliseconds) with implicitTimeout := milliseconds }

/-- Every element that has been registered is there. -/
def Live (page : Page) : Prop :=
  ∀ xpath rules, page.rules.get? xpath = some rules → ∀ rule ∈ rules, ∀ handle ∈ rule.handles,
    ∃ element, page.elements.get? handle.id = some element

/-- The path may find the element. -/
def Registered (page : Page) (path : Path) (handle : Handle) (element : Element) : Prop :=
  ∃ rules, page.rules.get? path.toXPath = some rules ∧ (∃ rule ∈ rules, handle ∈ rule.handles) ∧
    page.elements.get? handle.id = some element

variable {page page' base after : Page} {path : Path} {direction : Direction} {edge : Int} {handle : Handle}
  {loose : Handle → Prop}

theorem Live.of_entries (rules : ∀ entry ∈ page.rules.entries, ∀ rule ∈ entry.2, ∀ handle ∈ rule.handles,
    (page.elements.get? handle.id).isSome) : page.Live :=
  fun _ _ found rule mem handle named =>
    Option.isSome_iff_exists.mp (rules _ (Keyed.mem_of_get? found) rule mem handle named)

theorem mem_resolve_iff : handle ∈ page.resolve path.toXPath ↔
    ∃ rules, page.rules.get? path.toXPath = some rules ∧
      ∃ rule ∈ rules, page.applies rule = true ∧ handle ∈ rule.handles := by
  rw [resolve, mem_firstMentions]
  cases page.rules.get? path.toXPath with
  | none => simp
  | some rules => simp [and_assoc]

theorem Live.of_rules (live : page.Live) (rules : page'.rules = page.rules)
    (elements : page'.elements = page.elements) :
    page'.Live := by
  unfold Live
  rwa [rules, elements]

theorem Live.of_mem (live : page.Live) (mem : handle ∈ page.resolve path.toXPath) :
    ∃ element, page.elements.get? handle.id = some element := by
  obtain ⟨rules, registered, rule, among, _, named⟩ := mem_resolve_iff.mp mem
  exact live _ rules registered rule among handle named

theorem registered_of_mem {element : Element} (mem : handle ∈ page.resolve path.toXPath)
    (live : page.elements.get? handle.id = some element) : page.Registered path handle element := by
  obtain ⟨rules, registered, rule, among, _, named⟩ := mem_resolve_iff.mp mem
  exact ⟨rules, registered, ⟨rule, among, named⟩, live⟩

theorem startsBefore_iff {element : Element} : page.startsBefore direction edge element = true ↔
    element.displayed = true ∧ (page.rect element).start direction < edge := by
  simp [startsBefore]

theorem found_eq_ok_iff : page.found path = .ok handle ↔ page.first? path = some handle := by
  unfold found
  cases page.first? path <;> simp

theorem element?_map_eq_ok_iff {Value : Type} {read : Element → Value} {value : Value} :
    (page.element? handle).map read = .ok value ↔
      ∃ element, page.elements.get? handle.id = some element ∧ read element = value := by
  unfold element?
  cases page.elements.get? handle.id <;> simp [Except.map]

theorem firstBefore?_eq_some (shown : page.firstBefore? path direction edge = .ok (some handle)) :
    handle ∈ page.resolve path.toXPath ∧ ∃ element, page.elements.get? handle.id = some element ∧
      page.startsBefore direction edge element = true := by
  obtain ⟨mem, accepted⟩ := findM?_eq_some shown
  exact ⟨mem, element?_map_eq_ok_iff.mp accepted⟩

/-! ## Pages scrolled alike -/

theorem AgreeOff.rect_eq (same : Same page page') (element : Element) : page'.rect element = page.rect element := by
  unfold rect
  cases element.anchor with
  | none => rfl
  | some container => simp only [same.offset container id]

theorem AgreeOff.resolve_same (same : Same page page') (path : Path) :
    page'.resolve path.toXPath = page.resolve path.toXPath :=
  same.resolve_eq fun _ _ => id

theorem AgreeOff.firstBefore?_eq (same : Same page page') :
    page'.firstBefore? path direction edge = page.firstBefore? path direction edge := by
  have asks (handle : Handle) : (page'.element? handle).map (page'.startsBefore direction edge) =
      (page.element? handle).map (page.startsBefore direction edge) := by
    have starts (element : Element) :
        page'.startsBefore direction edge element = page.startsBefore direction edge element := by
      simp only [startsBefore, same.rect_eq]
    unfold element?
    rw [same.elements]
    cases page.elements.get? handle.id with
    | none => rfl
    | some element => exact congrArg Except.ok (starts element)
  simp only [firstBefore?, same.resolve_same, asks]

theorem AgreeOff.found_eq (same : Same page page') : page'.found path = page.found path := by
  simp only [found, first?, same.resolve_same]

theorem Like.of_agreeing (like : base.Like page) (same : Same page page') : base.Like page' := by
  refine ⟨same.elements.trans like.elements, same.rules.trans like.rules, ?_, ?_⟩
  · intro handle element live
    rw [same.offset handle id]
    exact like.inRange.live handle element (same.elements ▸ live)
  · intro handle dead
    rw [same.offset handle id]
    exact like.inRange.dead handle (same.elements ▸ dead)

theorem Like.record (like : base.Like page) {call : Call} : base.Like (page.record call) :=
  like.of_same rfl rfl rfl

theorem AgreeOff.timed (agree : AgreeOff loose page page') (milliseconds : Nat) :
    AgreeOff loose page (page'.timed milliseconds) :=
  ⟨agree.elements, agree.rules, agree.offset⟩

/-! ## Operations -/

theorem outcome_find (path : Path) :
    (browser.find path).outcome page = (page.found path, page.record (.find path.toXPath)) := by
  unfold found
  cases first : page.first? path with
  | none => exact outcome_find_of_nil (first?_eq_none_iff.mp first)
  | some handle =>
      obtain ⟨others, resolved⟩ := first?_eq_some_iff.mp first
      exact outcome_find_of_cons resolved

theorem outcome_scrollTo_stale (missing : page.elements.get? handle.id = none) (x y : Option Int) :
    (browser.scrollTo handle x y).outcome page =
      (.error ⟨.driver, "stale element " ++ handle.id⟩, page.record (.scrollTo handle x y)) := by
  have stale : (page.record (.scrollTo handle x y)).setOffset handle
      (placed ((page.record (.scrollTo handle x y)).offset handle) x y) = _ := setOffset_stale missing
  unfold browser recorded Action.outcome
  simp only [ExceptT.run, StateT.run, stale]

theorem outcome_seeks (page : Page) (direction : Direction) (edge : Int) (handle : Handle) :
    (seeks direction edge handle).outcome page =
      ((page.element? handle).map (page.startsBefore direction edge), page) :=
  outcome_onElement_map page handle _

theorem outcome_probe_seeks (page : Page) (path : Path) (direction : Direction) (edge : Int) :
    (Scroller.probe browser path (seeks direction edge)).outcome page =
      (page.firstBefore? path direction edge, page.record (.findAll path.toXPath)) := by
  unfold Scroller.probe
  rw [outcome_bind_of_ok (outcome_findAll path),
    Scroller.outcome_firstAccepted fun handle page => outcome_seeks page direction edge handle]
  rfl

theorem untilAccepted_seeks_ends {scroller : Scroller} {container : Element} (inRange : page.InRange)
    (there : page.elements.get? scroller.container.id = some container) (sized : page.Sized scroller.settings.step)
    (stallsFit : scroller.settings.maxStalls < 0x100000000) (direction : Direction) (path : Path) (edge : Int)
    (alive : ∀ rules, page.rules.get? path.toXPath = some rules → ∀ rule ∈ rules, ∀ handle ∈ rule.handles,
      ∃ element, page.elements.get? handle.id = some element) :
    ∃ visited, scroller.Ends direction page container path
      (fun handle after => ((after.elements.get? handle.id).map (after.startsBefore direction edge)).getD false) visited
      ((scroller.untilAccepted browser direction path (seeks direction edge)).outcome page) := by
  exact Scroller.untilAccepted_ends inRange there (sized.spans _ _ there direction) stallsFit
    (Scroller.reads_onElement (startsBefore direction edge) alive)

/-- A search for what starts before an edge scrolls its container and nothing else, and ends where something does. -/
theorem untilAccepted_seeks {scroller : Scroller} (scope : loose scroller.container) (direction : Direction)
    (path : Path) (edge : Int) :
    Concludes (AgreeOff loose base) (scroller.untilAccepted browser direction path (seeks direction edge))
      (fun found after => AgreeOff loose base after ∧ after.firstBefore? path direction edge = .ok (some found))
      fun _ => AgreeOff loose base := by
  have places : Confined (AgreeOff loose base) (scroller.place browser direction) fun _ => True :=
    Confined.bind (onElement_confined fun _ _ => trivial) fun offset => .pure _
  have steps : Confined (AgreeOff loose base) (scroller.step browser direction) fun _ => True := by
    cases direction with
    | down =>
        dsimp only [Scroller.step, browser]
        exact scroll_keeps scope
    | right =>
        dsimp only [Scroller.step, browser]
        exact scroll_keeps scope
  apply Scroller.searchFrom_concludes
  · intro current agree
    have looked : AgreeOff loose base (current.record (.findAll path.toXPath)) := agree.recorded
    rw [outcome_probe_seeks]
    cases asked : current.firstBefore? path direction edge with
    | error error => exact looked
    | ok first =>
        cases first with
        | none => exact looked
        | some found => exact ⟨looked, asked⟩
  · exact places.concludes
  · exact steps.concludes
  · exact fun _ _ _ agree => agree

end Page

open Page

namespace Grid

variable {State Value : Type} {grid : Grid} {page after : Page} {edge : Int} {direction : Direction}

/-- Whether an element counts as visible: a row by its top, a header or a cell by its left edge. -/
def visible (browser : Browser (Grid × State)) : Direction → (edge : Int) → Handle → GridAction State Bool
  | .down => rowVisible browser
  | .right => columnVisible browser

/-- The box of the grid's content. -/
def contentRect (grid : Grid) (page : Page) : Except Error Rect := do
  let content ← page.found grid.regions.content
  (page.element? content).map page.rect

/-- The scrollers of rows and of columns, both scrolled to their starts. -/
def atStart (browser : Browser (Grid × State)) : GridAction State (Scroller × Scroller) := do
  let rows ← rowScroller browser
  let columns ← columnScroller browser
  rows.toTopLeftCorner browser
  columns.toLeftEdge browser
  return (rows, columns)

/-- The grid's containers are on the page. -/
def Contained (grid : Grid) (page : Page) : Prop :=
  ∃ rows columns, grid.rowContainerOn page = some rows ∧ grid.columnContainerOn page = some columns ∧
    (page.elements.get? rows.id).isSome ∧ (page.elements.get? columns.id).isSome

/-- The page with the grid's containers at their starts. -/
structure AtStart (page : Page) (rows columns : Handle) (after : Page) : Prop where
  liveRows : ∃ element, page.elements.get? rows.id = some element
  liveColumns : ∃ element, page.elements.get? columns.id = some element
  content : AgreeOff (fun handle => handle = rows ∨ handle = columns) page after
  inRange : page.InRange → after.InRange
  rows : after.offset rows = .zero
  columns : (after.offset columns).x = 0

/-- The scrollers are those of the grid, and both containers are at their starts. -/
structure Started (grid : Grid) (page : Page) (scrollers : Scroller × Scroller) (whole : Grid × Page) : Prop where
  rows : grid.rowContainerOn page = some scrollers.1.container
  columns : grid.columnContainerOn page = some scrollers.2.container
  rowSettings : scrollers.1.settings = grid.settings.scroll
  columnSettings : scrollers.2.settings = grid.settings.scroll
  located : whole.1 = grid.located page
  atStart : AtStart page scrollers.1.container scrollers.2.container whole.2

/-! ## One question -/

/-- The questions about rows and about columns differ in the side of the box they ask about. -/
theorem outcome_visible (handle : Handle) :
    (visible Page.browser.besideGrid direction edge handle).outcome (grid, page) =
      ((page.element? handle).map (page.startsBefore direction edge), grid, page) := by
  have shown : (Page.browser.besideGrid.isDisplayed handle).outcome (grid, page) =
      ((page.element? handle).map Element.displayed, grid, page) :=
    outcome_beside ((Page.browser.beside_alike grid).isDisplayed handle) (outcome_onElement_map page handle _)
  have boxed : (Page.browser.besideGrid.rect handle).outcome (grid, page) =
      ((page.element? handle).map page.rect, grid, page) :=
    outcome_beside ((Page.browser.beside_alike grid).rect handle) (outcome_onElement_map page handle _)
  have asks (side : Rect → Int) (same : side = Rect.start direction) :
      Action.outcome (do
        if ← Page.browser.besideGrid.isDisplayed handle then
          return decide (side (← Page.browser.besideGrid.rect handle) < edge)
        else return false : GridAction Page Bool) (grid, page) =
      ((page.element? handle).map (page.startsBefore direction edge), grid, page) := by
    subst same
    have compares (displayed : Bool) : Action.outcome (do
        if displayed then
          return decide ((← Page.browser.besideGrid.rect handle).start direction < edge)
        else return false : GridAction Page Bool) (grid, page) =
        ((if displayed then
          (page.element? handle).map page.rect >>= fun box => pure (decide (box.start direction < edge))
          else pure false), grid, page) := by
      cases displayed with
      | true => exact outcome_bind_reads boxed fun box => rfl
      | false => rfl
    rw [outcome_bind_reads shown compares]
    cases page.element? handle with
    | error error => rfl
    | ok element =>
        unfold startsBefore
        cases shown : element.displayed <;> simp only [Except.map, bind, Except.bind, shown] <;> rfl
  cases direction with
  | down => exact asks Rect.y rfl
  | right => exact asks Rect.x rfl

theorem outcome_rowVisibleNow (grid : Grid) (page : Page) (row : Path) (bottom : Int) :
    (rowVisibleNow Page.browser.besideGrid row bottom).outcome (grid, page) =
      ((page.firstBefore? row .down bottom).map Option.isSome, grid, page.record (.findAll row.toXPath)) := by
  have looked : ((Page.browser.besideGrid.findAll row).attempt).outcome (grid, page) =
      (.ok (.ok (page.resolve row.toXPath)), grid, page.record (.findAll row.toXPath)) := rfl
  have asked : (Scroller.firstAccepted (visible Page.browser.besideGrid .down bottom)
      (page.resolve row.toXPath)).outcome (grid, page.record (.findAll row.toXPath)) =
        (page.firstBefore? row .down bottom, grid, page.record (.findAll row.toXPath)) :=
    Scroller.outcome_firstAccepted (fun handle _ => outcome_visible handle) _ _
  unfold rowVisibleNow
  rw [outcome_bind_of_ok looked]
  refine (outcome_bind_reads asked fun found => rfl).trans ?_
  cases page.firstBefore? row .down bottom <;> rfl

/-! ## The places of a grid -/

theorem outcome_findBeside (path : Path) : (Page.browser.besideGrid.find path).outcome (grid, page) =
    (page.found path, grid, page.record (.find path.toXPath)) :=
  outcome_beside ((Page.browser.beside_alike grid).find path) (outcome_find path)

theorem outcome_contentBox (grid : Grid) (page : Page) : (contentBox Page.browser.besideGrid).outcome (grid, page) =
    (grid.contentRect page, grid, page.record (.find grid.regions.content.toXPath)) := by
  unfold contentBox
  rw [outcome_bind_of_ok (outcome_known _)]
  apply outcome_bind_reads (outcome_findBeside _)
  intro content
  exact outcome_beside ((Page.browser.beside_alike grid).rect content) (outcome_onElement_map _ content _)

theorem contentRect_eq_ok_iff {box : Rect} : grid.contentRect page = .ok box ↔
    ∃ content element, page.first? grid.regions.content = some content ∧
      page.elements.get? content.id = some element ∧ page.rect element = box := by
  unfold contentRect found
  cases page.first? grid.regions.content <;> simp [bind, Except.bind, element?_map_eq_ok_iff]

theorem outcome_scrollerOf (path : Path) :
    (Scroller.ofTarget Page.browser.besideGrid (.path path)).outcome (grid, page) =
      ((page.found path).map (Scroller.mk · {}), grid, page.record (.find path.toXPath)) :=
  outcome_bind_reads (outcome_findBeside path) fun _ => rfl

theorem outcome_rowScroller (grid : Grid) (page : Page) :
    (rowScroller Page.browser.besideGrid).outcome (grid, page) =
      ((page.found grid.regions.viewport).map (Scroller.mk · grid.settings.scroll), grid,
        page.record (.find grid.regions.viewport.toXPath)) := by
  unfold rowScroller
  rw [outcome_bind_of_ok (outcome_known _)]
  refine (outcome_bind_reads (outcome_scrollerOf _) fun scroller => rfl).trans ?_
  cases page.found grid.regions.viewport <;> rfl

theorem outcome_columnContainer (grid : Grid) (page : Page) :
    ∃ asked, Same page asked ∧ (columnContainer Page.browser.besideGrid).outcome (grid, page) =
      (.ok (grid.columnPlace page), grid.located page, asked) := by
  unfold columnContainer
  rw [outcome_bind_of_ok (outcome_known _)]
  cases viewport : grid.columnViewport with
  | some path =>
      have same : grid.columnPlace page = path := by rw [columnPlace, viewport, Option.getD_some]
      have located : grid.located page = grid := by rw [located, same, ← viewport]
      rw [same, located]
      exact ⟨page, .refl page, rfl⟩
  | none =>
      have present : (Page.browser.besideGrid.isPresent grid.regions.centerViewport).outcome (grid, page) =
          (.ok (page.first? grid.regions.centerViewport).isSome, grid,
            page.record (.findAll grid.regions.centerViewport.toXPath)) := by
        have looked : (Page.browser.besideGrid.findAll grid.regions.centerViewport).outcome (grid, page) =
            (.ok (page.resolve grid.regions.centerViewport.toXPath), grid,
              page.record (.findAll grid.regions.centerViewport.toXPath)) := rfl
        unfold Browser.isPresent first?
        rw [outcome_bind_of_ok looked]
        cases page.resolve grid.regions.centerViewport.toXPath <;> rfl
      refine ⟨page.record (.findAll grid.regions.centerViewport.toXPath), (AgreeOff.refl page).recorded, ?_⟩
      simp only
      rw [outcome_bind_of_ok present]
      unfold located columnPlace
      rw [viewport, Option.getD_none]
      rfl

theorem outcome_columnScroller (grid : Grid) (page : Page) :
    ∃ sought, Same page sought ∧ (columnScroller Page.browser.besideGrid).outcome (grid, page) =
      ((page.found (grid.columnPlace page)).map (Scroller.mk · grid.settings.scroll), grid.located page, sought) := by
  obtain ⟨asked, same, chosen⟩ := outcome_columnContainer grid page
  refine ⟨asked.record (.find (grid.columnPlace page).toXPath), same.recorded, ?_⟩
  unfold columnScroller
  rw [outcome_bind_of_ok chosen, ← same.found_eq]
  have sets (scroller : Scroller) : Action.outcome (do
      return scroller.withSettings (← known).settings.scroll : GridAction Page Scroller)
      (grid.located page, asked.record (.find (grid.columnPlace page).toXPath)) =
        (.ok (scroller.withSettings grid.settings.scroll), _) := rfl
  refine (outcome_bind_reads (outcome_scrollerOf _) sets).trans ?_
  cases asked.found (grid.columnPlace page) <;> rfl

/-! ## Both containers at their starts -/

theorem atStart_bind (browser : Browser (Grid × State)) (next : Scroller × Scroller → GridAction State Value) :
    atStart browser >>= next =
      rowScroller browser >>= fun rows => columnScroller browser >>= fun columns =>
        rows.toTopLeftCorner browser >>= fun _ => columns.toLeftEdge browser >>= fun _ => next (rows, columns) := by
  simp only [atStart, bind_assoc, pure_bind]

theorem AtStart.of_scrolled {up : Page} {rows columns : Handle} {rowsElement columnsElement : Element}
    {call call' : Call} (liveRows : page.elements.get? rows.id = some rowsElement)
    (liveColumns : page.elements.get? columns.id = some columnsElement)
    (first : up = (page.record call).moved rows (rowsElement.clampOffset .zero))
    (last : after = (up.record call').moved columns (columnsElement.clampOffset ⟨0, (up.offset columns).y⟩)) :
    AtStart page rows columns after := by
  have zero (element : Element) : element.clampOffset .zero = .zero := by
    simp only [Element.clampOffset, Element.clamp, Offset.zero, Offset.mk.injEq]
    omega
  have top (handle : Handle) : up.offset handle = if handle = rows then .zero else page.offset handle := by
    rw [first, offset_moved, zero]
    rfl
  have left (handle : Handle) : after.offset handle =
      if handle = columns then columnsElement.clampOffset ⟨0, (up.offset columns).y⟩ else up.offset handle := by
    rw [last, offset_moved]
    rfl
  constructor
  case liveRows => exact ⟨rowsElement, liveRows⟩
  case liveColumns => exact ⟨columnsElement, liveColumns⟩
  case content =>
    refine ⟨last ▸ first ▸ rfl, last ▸ first ▸ rfl, fun handle other => ?_⟩
    rw [not_or] at other
    rw [left, if_neg other.2, top, if_neg other.1]
  case inRange =>
    intro inRange
    have middle : page.Like up := first ▸ (Like.refl inRange).record.moved liveRows (rowsElement.clampOffset_admits _)
    exact last ▸ (middle.record.moved liveColumns (columnsElement.clampOffset_admits _)).inRange
  case rows =>
    rw [left]
    split
    case isTrue own =>
      rw [← own, top, if_pos rfl]
      exact zero columnsElement
    case isFalse => rw [top, if_pos rfl]
  case columns =>
    rw [left, if_pos rfl]
    simp only [Element.clampOffset, Element.clamp]
    omega

theorem columnPlace_of_same {sought : Page} (same : Same page sought) :
    grid.columnPlace sought = grid.columnPlace page := by
  unfold columnPlace first?
  rw [same.resolve_same]

theorem AtStart.of_same {sought : Page} {rows columns : Handle} (start : AtStart sought rows columns after)
    (same : Same page sought) : AtStart page rows columns after :=
  ⟨same.elements ▸ start.liveRows, same.elements ▸ start.liveColumns,
    (same.mono fun _ => False.elim).trans start.content,
    fun inRange => start.inRange ((Like.refl inRange).of_agreeing same).inRange, start.rows, start.columns⟩

theorem toStarts_concludes (now : Grid) (page : Page) (rows columns : Scroller) :
    Concludes (fun whole => whole = (now, page))
      (do
        rows.toTopLeftCorner Page.browser.besideGrid
        columns.toLeftEdge Page.browser.besideGrid
        return (rows, columns))
      (fun scrollers whole => scrollers = (rows, columns) ∧ whole.1 = now ∧
        AtStart page rows.container columns.container whole.2)
      fun _ _ => page.elements.get? rows.container.id = none ∨ page.elements.get? columns.container.id = none := by
  rintro _ rfl
  cases liveRows : page.elements.get? rows.container.id with
  | none =>
      have failed : (rows.toTopLeftCorner Page.browser.besideGrid).outcome (now, page) = _ :=
        outcome_beside ((Page.browser.beside_alike now).scrollTo rows.container _ _)
          (outcome_scrollTo_stale liveRows _ _)
      rw [outcome_bind_of_error failed]
      exact .inl rfl
  | some rowsElement =>
      obtain ⟨up, first, rises⟩ : ∃ up, up = (page.record (.scrollTo rows.container (some 0) (some 0))).moved
          rows.container (rowsElement.clampOffset .zero) ∧
            (rows.toTopLeftCorner Page.browser.besideGrid).outcome (now, page) = (.ok (), now, up) :=
        ⟨_, rfl, outcome_beside ((Page.browser.beside_alike now).scrollTo rows.container _ _)
          (outcome_scrollTo liveRows _ _)⟩
      have elements : up.elements = page.elements := first ▸ rfl
      rw [outcome_bind_of_ok rises]
      cases liveColumns : up.elements.get? columns.container.id with
      | none =>
          have failed : (columns.toLeftEdge Page.browser.besideGrid).outcome (now, up) = _ :=
            outcome_beside ((Page.browser.beside_alike now).scrollTo columns.container _ _)
              (outcome_scrollTo_stale liveColumns _ _)
          rw [outcome_bind_of_error failed]
          exact .inr (elements ▸ liveColumns)
      | some columnsElement =>
          have returns : (columns.toLeftEdge Page.browser.besideGrid).outcome (now, up) = _ :=
            outcome_beside ((Page.browser.beside_alike now).scrollTo columns.container _ _)
              (outcome_scrollTo liveColumns _ _)
          rw [outcome_bind_of_ok returns]
          exact ⟨rfl, rfl, .of_scrolled liveRows (elements ▸ liveColumns) first rfl⟩

theorem Contained.of_containers {rows columns : Handle} (contained : grid.Contained page)
    (firstRows : page.first? grid.regions.viewport = some rows)
    (firstColumns : page.first? (grid.columnPlace page) = some columns) :
    ¬(page.elements.get? rows.id = none ∨ page.elements.get? columns.id = none) := by
  obtain ⟨rows', columns', sameRows, sameColumns, liveRows, liveColumns⟩ := contained
  cases firstRows.symm.trans sameRows
  cases firstColumns.symm.trans sameColumns
  simp [Option.isSome_iff_ne_none.mp liveRows, Option.isSome_iff_ne_none.mp liveColumns]

/-- The containers are looked for before either is scrolled. -/
theorem atStart_concludes (grid : Grid) (page : Page) :
    Concludes (fun whole => whole = (grid, page)) (atStart Page.browser.besideGrid)
      (grid.Started page) fun _ _ => ¬grid.Contained page := by
  have rowsFound := outcome_rowScroller grid page
  obtain ⟨sought, same, columnsFound⟩ : ∃ sought, Same page sought ∧
      (columnScroller Page.browser.besideGrid).outcome (grid, page.record (.find grid.regions.viewport.toXPath)) =
        ((page.found (grid.columnPlace page)).map (Scroller.mk · grid.settings.scroll), grid.located page, sought) := by
    obtain ⟨sought, agree, ended⟩ := outcome_columnScroller grid (page.record (.find grid.regions.viewport.toXPath))
    exact ⟨sought, ⟨agree.elements, agree.rules, agree.offset⟩, ended⟩
  rintro _ rfl
  unfold atStart
  unfold found at rowsFound columnsFound
  cases firstRows : page.first? grid.regions.viewport with
  | none =>
      rw [firstRows] at rowsFound
      rw [outcome_bind_of_error rowsFound]
      rintro ⟨rows, _, first, _⟩
      cases firstRows.symm.trans first
  | some rows =>
      rw [firstRows] at rowsFound
      rw [outcome_bind_of_ok rowsFound]
      cases firstColumns : page.first? (grid.columnPlace page) with
      | none =>
          rw [firstColumns] at columnsFound
          rw [outcome_bind_of_error columnsFound]
          rintro ⟨_, columns, _, first, _⟩
          cases firstColumns.symm.trans first
      | some columns =>
          rw [firstColumns] at columnsFound
          rw [outcome_bind_of_ok columnsFound]
          refine Concludes.weaken (toStarts_concludes (grid.located page) sought ⟨rows, grid.settings.scroll⟩
            ⟨columns, grid.settings.scroll⟩) ?_ ?_ _ rfl
          · rintro _ whole ⟨rfl, known, started⟩
            exact ⟨firstRows, firstColumns, rfl, rfl, known, started.of_same same⟩
          · intro _ _ stale contained
            exact contained.of_containers firstRows firstColumns (same.elements ▸ stale)

theorem Started.of_same {sought : Page} {scrollers : Scroller × Scroller} {whole : Grid × Page}
    (started : grid.Started sought scrollers whole) (same : Same page sought) : grid.Started page scrollers whole := by
  have place : grid.columnPlace sought = grid.columnPlace page := columnPlace_of_same same
  have rows := started.rows
  have columns := started.columns
  have located := started.located
  rw [rowContainerOn, first?, same.resolve_same] at rows
  rw [columnContainerOn, place, first?, same.resolve_same] at columns
  rw [Grid.located, place] at located
  exact ⟨rows, columns, started.rowSettings, started.columnSettings, located, started.atStart.of_same same⟩

/-! ## Searches and timeouts -/

theorem untilVisible_beside (now : Grid) (scroller : Scroller) (direction : Direction) (path : Path) (edge : Int) :
    Alike (fun page whole => whole = (now, page))
      (scroller.untilAccepted Page.browser direction path (seeks direction edge))
      (scroller.untilAccepted Page.browser.besideGrid direction path
        (visible Page.browser.besideGrid direction edge)) := by
  apply Scroller.untilAccepted_alike (Page.browser.beside_alike now)
  rintro candidate page _ rfl
  rw [outcome_seeks, outcome_visible]
  exact ⟨rfl, rfl⟩

/-- What is done under the timeouts of a grid is done between two calls that set them. -/
theorem outcome_underTimeouts (grid : Grid) (page : Page) (body : GridAction Page Value) :
    (underTimeouts Page.browser.besideGrid body).outcome (grid, page) =
      ((body.outcome (grid, page.timed grid.settings.timeouts.during)).1,
        (body.outcome (grid, page.timed grid.settings.timeouts.during)).2.1,
        (body.outcome (grid, page.timed grid.settings.timeouts.during)).2.2.timed grid.settings.timeouts.after) := by
  unfold underTimeouts
  rw [outcome_bind_of_ok (outcome_known _)]
  have lowered : (Page.browser.besideGrid.setImplicitTimeout grid.settings.timeouts.during).outcome (grid, page) =
      (.ok (), grid, page.timed grid.settings.timeouts.during) := rfl
  exact Browser.withTimeout_of_lowered lowered

end Grid

end Locator
