import Locator.Path.Html
import Locator.Proofs.Page.Operations
import Locator.Proofs.Page.Sizes
import Locator.Proofs.Page.Stops
import Mathlib.Data.List.Find

/-!
# A search on a page

On a page whose content holds still, a search stands at one stop after another, takes the first match that
is accepted at the first stop that has one, and gives up after its last step. Besides its lookups it makes
as many calls as it takes steps, and it changes nothing but the offset that it scrolls.
-/

namespace Locator

set_option autoImplicit false

/-- Whether the call looks for nodes. -/
def Call.isLookup : Call → Bool
  | .find _ | .findAll _ => true
  | _ => false

namespace Direction

/-- The offset with another place on the axis of a direction. -/
def moved : Direction → Offset → Int → Offset
  | .down, offset, place => { offset with y := place }
  | .right, offset, place => { offset with x := place }

/-- The call that takes one step. -/
def stepCall : Direction → Handle → Int → Call
  | .down, container, step => .scrollBy container 0 step
  | .right, container, step => .scrollBy container step 0

/-- The window that is open from `least` to `greatest` on the axis of a direction. -/
def window : Direction → Handle → Int → Int → Window
  | .down, container, least, greatest => { container, y := .between least greatest }
  | .right, container, least, greatest => { container, x := .between least greatest }

theorem place_moved (direction : Direction) (offset : Offset) (place : Int) :
    direction.place (direction.moved offset place) = place := by
  cases direction <;> rfl

theorem moved_place (direction : Direction) (offset : Offset) :
    direction.moved offset (direction.place offset) = offset := by
  cases direction <;> rfl

end Direction

theorem Element.Admits.place {element : Element} {offset : Offset} (admits : element.Admits offset)
    (direction : Direction) :
    0 ≤ direction.place offset ∧ direction.place offset ≤ max 0 (direction.place element.extent) := by
  cases direction with
  | down => exact ⟨admits.top, admits.bottom⟩
  | right => exact ⟨admits.left, admits.right⟩

/-- The first match of a path for which a test holds. -/
def Page.firstMatch (page : Page) (path : Path) (holds : Handle → Page → Bool) : Option Handle :=
  (page.resolve path.toXPath).find? fun handle => holds handle page

/-- Keeping each handle where it is met first loses none and adds none. -/
theorem Page.mem_firstMentions (handles : List Handle) (handle : Handle) :
    handle ∈ Page.firstMentions handles ↔ handle ∈ handles := by
  have gathered (found : List Handle) :
      handle ∈ handles.foldl (fun found next => if found.contains next then found else found ++ [next]) found ↔
        handle ∈ found ∨ handle ∈ handles := by
    induction handles generalizing found with
    | nil => simp
    | cons next others ih =>
        rw [List.foldl_cons, ih, List.mem_cons]
        by_cases known : found.contains next = true
        · have mem : next ∈ found := List.contains_iff_mem.mp known
          simp only [known, if_true]
          constructor
          · rintro (mem' | mem')
            · exact .inl mem'
            · exact .inr (.inr mem')
          · rintro (mem' | rfl | mem')
            · exact .inl mem'
            · exact .inl mem
            · exact .inr mem'
        · simp only [known, Bool.false_eq_true, if_false, List.mem_append, List.mem_singleton]
          tauto
  simpa [Page.firstMentions] using gathered []

theorem Element.Admits.moved {element : Element} {offset : Offset} {direction : Direction} {place : Int}
    (admits : element.Admits offset)
    (between : 0 ≤ place ∧ place ≤ max 0 (direction.place element.extent)) :
    element.Admits (direction.moved offset place) := by
  cases direction with
  | down => exact ⟨admits.left, admits.right, between.1, between.2⟩
  | right => exact ⟨between.1, between.2, admits.top, admits.bottom⟩

namespace Scroller

variable (scroller : Scroller) (direction : Direction) (page : Page) (element : Element)

/-- Where a search that starts on `page` stands after some steps. -/
def stop (steps : Nat) : Int :=
  Locator.stop (max 0 (direction.place element.extent)) (direction.place (page.offset scroller.container))
    scroller.settings.step steps

/-- How many steps of a search that starts on `page` move forward. -/
def advances : Nat :=
  Locator.advances (max 0 (direction.place element.extent))
    (direction.place (page.offset scroller.container)) scroller.settings.step

/-- The step after which a search that starts on `page` gives up. -/
def lastStep : Nat :=
  Locator.lastStep (max 0 (direction.place element.extent))
    (direction.place (page.offset scroller.container)) scroller.settings.step scroller.settings.maxStalls

/-- The page after some steps of a search: the container has been scrolled to the stop on the axis of the
search, the calls of these steps have been recorded and so have lookups, and nothing else has changed. -/
structure Stands (steps : Nat) (after : Page) : Prop where
  elements : after.elements = page.elements
  rules : after.rules = page.rules
  implicitTimeout : after.implicitTimeout = page.implicitTimeout
  offset : ∀ handle, after.offset handle =
    if handle = scroller.container then
      direction.moved (page.offset handle) (scroller.stop direction page element steps)
    else page.offset handle
  calls : ∃ calls, after.log = calls ++ page.log ∧
    calls.filter (!·.isLookup) =
      List.replicate steps (direction.stepCall scroller.container scroller.settings.step)

/-- Asked about the matches of `path` where the search stands, the test only reads the page: it ends with the
answer of `holds` and records no calls but lookups, and what has been asked before does not change an
answer. -/
structure Reads (path : Path) (accept : Handle → Action Page Bool) (holds : Handle → Page → Bool) :
    Prop where
  answers : ∀ steps after, scroller.Stands direction page element steps after →
    ∀ handle ∈ after.resolve path.toXPath, ∃ lookups : List Call,
      (∀ call ∈ lookups, call.isLookup = true) ∧
        (accept handle).outcome after = (.ok (holds handle after), { after with log := lookups ++ after.log })
  steady : ∀ steps after, scroller.Stands direction page element steps after →
    ∀ handle ∈ after.resolve path.toXPath, ∀ asked ∈ after.resolve path.toXPath,
      holds handle ((accept asked).outcome after).2 = holds handle after

/-- How a search ends that stands at the pages `visited 0`, `visited 1` and so on. -/
inductive Ends (path : Path) (holds : Handle → Page → Bool) (visited : Nat → Page) :
    Except Error Handle × Page → Prop where
  | found (steps : Nat) (handle : Handle) (after : Page)
      (inTime : steps ≤ scroller.lastStep direction page element)
      (stood : ∀ earlier ≤ steps, scroller.Stands direction page element earlier (visited earlier))
      (missed : ∀ earlier < steps, (visited earlier).firstMatch path holds = none)
      (here : (visited steps).firstMatch path holds = some handle)
      (left : scroller.Stands direction page element steps after) :
      Ends path holds visited (.ok handle, after)
  | exhausted (after : Page)
      (stood : ∀ steps ≤ scroller.lastStep direction page element,
        scroller.Stands direction page element steps (visited steps))
      (missed : ∀ steps ≤ scroller.lastStep direction page element,
        (visited steps).firstMatch path holds = none)
      (left : scroller.Stands direction page element (scroller.lastStep direction page element) after) :
      Ends path holds visited
        (.error (Scroller.exhausted path direction (scroller.lastStep direction page element)), after)

variable {scroller direction page element}

/-! ## One stop -/

theorem Stands.start (inRange : page.InRange) (live : page.elements.get? scroller.container.id = some element) :
    scroller.Stands direction page element 0 page := by
  obtain ⟨nonneg, inside⟩ := (inRange.live _ _ live).place direction
  constructor
  case elements => rfl
  case rules => rfl
  case implicitTimeout => rfl
  case offset =>
    intro handle
    split
    case isTrue same =>
      rw [stop, stop_zero nonneg inside, same, direction.moved_place]
    case isFalse => rfl
  case calls => exact ⟨[], rfl, rfl⟩

theorem Stands.inRange {steps : Nat} {after : Page} (stands : scroller.Stands direction page element steps after)
    (inRange : page.InRange) (live : page.elements.get? scroller.container.id = some element) :
    after.InRange := by
  have admits := inRange.live _ _ live
  obtain ⟨nonneg, inside⟩ := admits.place direction
  have between := stop_between scroller.settings.step nonneg inside steps
  constructor
  · intro handle found there
    rw [stands.elements] at there
    rw [stands.offset]
    split
    case isTrue same =>
      subst same
      rw [live] at there
      cases there
      exact admits.moved between
    case isFalse => exact inRange.live handle found there
  · intro handle dead
    rw [stands.elements] at dead
    rw [stands.offset]
    split
    case isTrue same =>
      subst same
      rw [live] at dead
      cases dead
    case isFalse => exact inRange.dead handle dead

/-- Lookups leave a search where it stands. -/
theorem Stands.lookUp {steps : Nat} {after : Page} (stands : scroller.Stands direction page element steps after)
    {lookups : List Call} (only : ∀ call ∈ lookups, call.isLookup = true) :
    scroller.Stands direction page element steps { after with log := lookups ++ after.log } := by
  obtain ⟨calls, log, taken⟩ := stands.calls
  constructor
  case elements => exact stands.elements
  case rules => exact stands.rules
  case implicitTimeout => exact stands.implicitTimeout
  case offset => exact stands.offset
  case calls =>
    refine ⟨lookups ++ calls, ?_, ?_⟩
    · simp only [log, List.append_assoc]
    · have none : lookups.filter (!·.isLookup) = [] := by
        rw [List.filter_eq_nil_iff]
        intro call mem
        simp [only call mem]
      rw [List.filter_append, none, taken, List.nil_append]

variable {accept : Handle → Action Page Bool} {holds : Handle → Page → Bool}

theorem Stands.outcome_firstAccepted {path : Path} {steps : Nat} {after : Page}
    (stands : scroller.Stands direction page element steps after)
    (reads : scroller.Reads direction page element path accept holds) (candidates : List Handle)
    (matching : candidates ⊆ after.resolve path.toXPath) :
    ∃ lookups : List Call, (∀ call ∈ lookups, call.isLookup = true) ∧
      (firstAccepted accept candidates).outcome after =
        (.ok (candidates.find? fun handle => holds handle after),
          { after with log := lookups ++ after.log }) := by
  induction candidates generalizing after with
  | nil => exact ⟨[], by simp, rfl⟩
  | cons candidate others ih =>
      obtain ⟨here, matchingOthers⟩ := List.cons_subset.mp matching
      obtain ⟨lookups, only, answer⟩ := reads.answers steps after stands candidate here
      rw [firstAccepted, Action.outcome_bind_of_ok answer]
      cases accepted : holds candidate after with
      | true =>
          refine ⟨lookups, only, ?_⟩
          simp only [List.find?_cons, accepted]
          rfl
      | false =>
          obtain ⟨more, onlyMore, rest⟩ := ih (stands.lookUp only) matchingOthers
          have unchanged : (others.find? fun handle => holds handle { after with log := lookups ++ after.log }) =
              others.find? fun handle => holds handle after := by
            apply List.find?_congr
            intro handle mem
            have steady := reads.steady steps after stands handle (matchingOthers mem) candidate here
            rw [answer] at steady
            exact steady
          refine ⟨more ++ lookups, ?_, ?_⟩
          · intro call mem
            rcases List.mem_append.mp mem with mem | mem
            · exact onlyMore call mem
            · exact only call mem
          · rw [unchanged] at rest
            simpa [List.find?_cons, accepted, List.append_assoc] using rest

/-- A probe looks at the page as it is, and leaves the search where it stands. -/
theorem Stands.probe {path : Path} {steps : Nat} {current : Page}
    (stands : scroller.Stands direction page element steps current)
    (reads : scroller.Reads direction page element path accept holds) :
    ∃ looked asked : Page, scroller.Stands direction page element steps looked ∧
      scroller.Stands direction page element steps asked ∧
      (probe Page.browser path accept).outcome current = (.ok (looked.firstMatch path holds), asked) := by
  have lookup : ∀ call ∈ [Call.findAll path.toXPath], call.isLookup = true := by simp [Call.isLookup]
  have looked : scroller.Stands direction page element steps (current.record (.findAll path.toXPath)) :=
    stands.lookUp lookup
  obtain ⟨lookups, only, ended⟩ :=
    looked.outcome_firstAccepted reads (current.resolve path.toXPath) (List.Subset.refl _)
  refine ⟨_, _, looked, looked.lookUp only, ?_⟩
  rw [Scroller.probe, Action.outcome_bind_of_ok (Page.outcome_findAll path), ended]
  rfl

section Steps

variable {steps : Nat} {current : Page}

theorem Stands.outcome_place (stands : scroller.Stands direction page element steps current)
    (live : page.elements.get? scroller.container.id = some element) :
    (scroller.place Page.browser direction).outcome current =
      (.ok (scroller.stop direction page element steps), current) := by
  have here : current.elements.get? scroller.container.id = some element := by
    rw [stands.elements, live]
  rw [Scroller.place, Action.outcome_bind_of_ok (Page.outcome_scrollOffset here), stands.offset,
    if_pos rfl, direction.place_moved]
  rfl

/-- One step goes to the next stop. -/
theorem Stands.outcome_step (stands : scroller.Stands direction page element steps current)
    (inRange : page.InRange) (live : page.elements.get? scroller.container.id = some element)
    (spans : element.Spans direction scroller.settings.step) :
    ∃ after, (scroller.step Page.browser direction).outcome current = (.ok (), after) ∧
      scroller.Stands direction page element (steps + 1) after := by
  have here : current.elements.get? scroller.container.id = some element := by
    rw [stands.elements, live]
  obtain ⟨calls, log, taken⟩ := stands.calls
  have admits := inRange.live _ _ live
  obtain ⟨nonneg, inside⟩ := admits.place direction
  have next := clamp_stop scroller.settings.step nonneg inside steps
  have stood := stands.offset scroller.container
  rw [if_pos rfl] at stood
  have admitted := (stands.inRange inRange live).live _ _ here
  obtain ⟨keptX, keptY⟩ := admitted.kept spans
  have stepped := admitted.stepped spans
  obtain ⟨dx, dy, call, target⟩ : ∃ dx dy,
      direction.stepCall scroller.container scroller.settings.step = .scrollBy scroller.container dx dy ∧
        element.clampOffset ⟨wrapped ((current.offset scroller.container).x + dx),
          wrapped ((current.offset scroller.container).y + dy)⟩ =
            direction.moved (page.offset scroller.container)
              (scroller.stop direction page element (steps + 1)) := by
    have unmoved (extent place : Int) (nonneg : 0 ≤ place) (inside : place ≤ max 0 extent) :
        Element.clamp extent place = place := by
      unfold Element.clamp
      omega
    cases direction with
    | down =>
        refine ⟨0, scroller.settings.step, rfl, ?_⟩
        rw [keptX, show wrapped ((current.offset scroller.container).y + _) = _ from stepped, stood]
        exact congrArg₂ Offset.mk (unmoved _ _ admits.left admits.right) next
    | right =>
        refine ⟨scroller.settings.step, 0, rfl, ?_⟩
        rw [keptY, show wrapped ((current.offset scroller.container).x + _) = _ from stepped, stood]
        exact congrArg₂ Offset.mk next (unmoved _ _ admits.top admits.bottom)
  have step : scroller.step Page.browser direction = Page.browser.scrollBy scroller.container dx dy := by
    cases direction <;> cases call <;> rfl
  refine ⟨_, step ▸ Page.outcome_scrollBy here dx dy, ?_⟩
  rw [target]
  constructor
  case elements => exact stands.elements
  case rules => exact stands.rules
  case implicitTimeout => exact stands.implicitTimeout
  case offset =>
    intro handle
    rw [Page.offset_moved]
    split
    case isTrue same => rw [same]
    case isFalse other =>
      have kept := stands.offset handle
      rw [if_neg other] at kept
      exact kept
  case calls =>
    refine ⟨.scrollBy scroller.container dx dy :: calls, ?_, ?_⟩
    · simp only [Page.moved, Page.record, log, List.cons_append]
    · rw [List.filter_cons_of_pos rfl, taken, call, List.replicate_succ]

end Steps

/-! ## The whole search -/

/-- The stalls after some steps are the steps beyond those that move forward. -/
theorem stalls_succ (steps : Nat) :
    (if scroller.stop direction page element steps < scroller.stop direction page element (steps + 1) then 0
      else steps - scroller.advances direction page element + 1) =
      steps + 1 - scroller.advances direction page element := by
  have moves : scroller.stop direction page element steps < scroller.stop direction page element (steps + 1) ↔
      steps < scroller.advances direction page element := stop_lt_stop_succ_iff steps
  split <;> omega

variable (scroller direction page element) in
theorem lastStep_eq : scroller.lastStep direction page element =
    if scroller.settings.maxStalls = 0 then 0
    else scroller.advances direction page element + scroller.settings.maxStalls :=
  rfl

/-- The search from a stop on. The stops behind it are those at which nothing was accepted. -/
theorem searchFrom_ends {path : Path} (inRange : page.InRange)
    (live : page.elements.get? scroller.container.id = some element)
    (spans : element.Spans direction scroller.settings.step)
    (reads : scroller.Reads direction page element path accept holds)
    (limit steps : Nat) (current : Page) (past : Nat → Page)
    (stands : scroller.Stands direction page element steps current)
    (inTime : steps ≤ scroller.lastStep direction page element)
    (enough : scroller.lastStep direction page element < steps + limit)
    (stood : ∀ earlier < steps, scroller.Stands direction page element earlier (past earlier))
    (missed : ∀ earlier < steps, (past earlier).firstMatch path holds = none) :
    ∃ visited, scroller.Ends direction page element path holds visited
      ((scroller.searchFrom Page.browser direction path accept limit
        (steps - scroller.advances direction page element) steps).outcome current) := by
  induction limit generalizing steps current past with
  | zero => omega
  | succ limit ih =>
      obtain ⟨looked, asked, standsLooked, standsAsked, probed⟩ := stands.probe reads
      rw [searchFrom, Action.outcome_bind_of_ok probed]
      let visited := fun earlier => if earlier = steps then looked else past earlier
      have stoodThere : ∀ earlier ≤ steps,
          scroller.Stands direction page element earlier (visited earlier) := by
        intro earlier upTo
        by_cases now : earlier = steps
        · simpa only [visited, now, if_true] using standsLooked
        · simpa only [visited, now, if_false] using stood earlier (by omega)
      cases result : looked.firstMatch path holds with
      | some handle =>
          refine ⟨visited, .found steps handle asked inTime stoodThere ?_ ?_ standsAsked⟩
          · intro earlier before
            have different : earlier ≠ steps := by omega
            simpa only [visited, different, if_false] using missed earlier before
          · simpa only [visited, if_true] using result
      | none =>
          have missedThere : ∀ earlier ≤ steps, (visited earlier).firstMatch path holds = none := by
            intro earlier upTo
            by_cases now : earlier = steps
            · simpa only [visited, now, if_true] using result
            · simpa only [visited, now, if_false] using missed earlier (by omega)
          have gaveUp := lastStep_eq scroller direction page element
          simp only
          by_cases ended : scroller.settings.maxStalls ≤ steps - scroller.advances direction page element
          · have last : steps = scroller.lastStep direction page element := by
              split at gaveUp <;> omega
            simp only [ended, if_true]
            subst last
            exact ⟨visited, .exhausted asked stoodThere missedThere standsAsked⟩
          · have more : steps + 1 ≤ scroller.lastStep direction page element := by
              split at gaveUp <;> omega
            obtain ⟨after, stepped, standsAfter⟩ := standsAsked.outcome_step inRange live spans
            have rest := ih (steps + 1) after visited standsAfter more (by omega)
              (fun earlier before => stoodThere earlier (by omega))
              (fun earlier before => missedThere earlier (by omega))
            simp only [ended, if_false]
            rw [Action.outcome_bind_of_ok (standsAsked.outcome_place live),
              Action.outcome_bind_of_ok stepped,
              Action.outcome_bind_of_ok (standsAfter.outcome_place live), stalls_succ]
            exact rest

theorem untilAccepted_ends {path : Path} (inRange : page.InRange)
    (live : page.elements.get? scroller.container.id = some element)
    (spans : element.Spans direction scroller.settings.step)
    (stallsFit : scroller.settings.maxStalls < 0x100000000)
    (reads : scroller.Reads direction page element path accept holds) :
    ∃ visited, scroller.Ends direction page element path holds visited
      ((scroller.untilAccepted Page.browser direction path accept).outcome page) := by
  obtain ⟨nonneg, _⟩ := (inRange.live _ _ live).place direction
  have enough : scroller.lastStep direction page element < 0 + stepLimit := by
    rw [Nat.zero_add]
    have fits := spans.place_lt
    exact lastStep_lt_stepLimit nonneg (by omega) stallsFit
  have ends := searchFrom_ends inRange live spans reads stepLimit 0 page (fun _ => page)
    (.start inRange live) (Nat.zero_le _) enough (fun _ before => absurd before (Nat.not_lt_zero _))
    (fun _ before => absurd before (Nat.not_lt_zero _))
  rw [Nat.zero_sub] at ends
  exact ends

/-- A test that leaves the page as it is only reads it. -/
theorem reads_of_answers {path : Path}
    (answers : ∀ steps after, scroller.Stands direction page element steps after →
      ∀ handle ∈ after.resolve path.toXPath, (accept handle).outcome after = (.ok (holds handle after), after)) :
    scroller.Reads direction page element path accept holds := by
  constructor
  · intro steps after stands handle mem
    exact ⟨[], by simp, answers steps after stands handle mem⟩
  · intro steps after stands handle mem asked memAsked
    rw [answers steps after stands asked memAsked]

/-- That a match is there is enough for a search for presence. -/
theorem reads_present (path : Path) :
    scroller.Reads direction page element path (fun _ => pure true) fun _ _ => true :=
  reads_of_answers fun _ _ _ _ _ => rfl

theorem untilPresent_ends (path : Path) (inRange : page.InRange)
    (live : page.elements.get? scroller.container.id = some element)
    (spans : element.Spans direction scroller.settings.step)
    (stallsFit : scroller.settings.maxStalls < 0x100000000) :
    ∃ visited, scroller.Ends direction page element path (fun _ _ => true) visited
      ((scroller.untilPresent Page.browser direction path).outcome page) :=
  untilAccepted_ends inRange live spans stallsFit (reads_present path)

/-- A test that reads something off an element only reads the page, as long as all matches are live. -/
theorem reads_onElement {path : Path} (read : Page → Element → Bool)
    (alive : ∀ rules, page.rules.get? path.toXPath = some rules → ∀ rule ∈ rules, ∀ handle ∈ rule.handles,
      ∃ element, page.elements.get? handle.id = some element) :
    scroller.Reads direction page element path (fun handle => Page.onElement handle read)
      fun handle after => ((after.elements.get? handle.id).map (read after)).getD false := by
  apply reads_of_answers
  intro steps after stands handle mem
  rw [Page.resolve, Page.mem_firstMentions, stands.rules] at mem
  obtain ⟨rule, applies, named⟩ := List.mem_flatMap.mp mem
  cases registered : page.rules.get? path.toXPath with
  | none => simp [registered] at applies
  | some rules =>
      simp only [registered, Option.getD_some] at applies
      obtain ⟨found, live⟩ := alive rules registered rule (List.mem_of_mem_filter applies) handle named
      rw [← stands.elements] at live
      rw [Page.outcome_onElement live, live]
      rfl

/-! ## Windows -/

theorem firstMatch_present (page : Page) (path : Path) :
    page.firstMatch path (fun _ _ => true) = (page.resolve path.toXPath).head? := by
  unfold Page.firstMatch
  cases page.resolve path.toXPath <;> rfl

/-- A query finds something where a window of it is open. -/
theorem Stands.resolve_ne_nil {steps : Nat} {after : Page} {least greatest : Int} {handles : List Handle}
    {rules : List Rule} {path : Path} (stands : scroller.Stands direction page element steps after)
    (registered : page.rules.get? path.toXPath = some rules)
    (mem : ⟨handles, some (direction.window scroller.container least greatest)⟩ ∈ rules)
    (some : handles ≠ []) (reached : least ≤ scroller.stop direction page element steps)
    (upTo : scroller.stop direction page element steps ≤ greatest) :
    after.resolve path.toXPath ≠ [] := by
  obtain ⟨handle, others, rfl⟩ := List.exists_cons_of_ne_nil some
  have stood := stands.offset scroller.container
  rw [if_pos rfl] at stood
  have holds : after.windowHolds (direction.window scroller.container least greatest) = true := by
    have unbounded (place : Int) : Span.contains {} place = true := rfl
    have between : (Span.between least greatest).contains (scroller.stop direction page element steps) = true := by
      simp [Span.contains, Span.between, reached, upTo]
    cases direction <;>
      simp only [Page.windowHolds, Direction.window, stood, Direction.moved, unbounded, between, Bool.and_self]
  have found : handle ∈ after.resolve path.toXPath := by
    rw [Page.resolve, stands.rules, registered, Page.mem_firstMentions]
    apply List.mem_flatMap.mpr
    exact ⟨_, List.mem_filter.mpr ⟨mem, holds⟩, List.mem_cons_self⟩
  exact List.ne_nil_of_mem found

/-- On a page as it can come about, a search in a container of 64-bit length, which gives up after a 32-bit
number of stalls and takes no step out of the 64-bit range, stands at one stop after another and ends as it
should. When steps go forward and some stalls are borne, it does not miss what is there in a window ahead that is
at least as wide as a step. -/
theorem search_stands_at_stops (page : Page) (reachable : page.Reachable) (scroller : Scroller)
    (element : Element) (live : page.elements.get? scroller.container.id = some element)
    (direction : Direction) (spans : element.Spans direction scroller.settings.step)
    (stallsFit : scroller.settings.maxStalls < 0x100000000) (path : Path) :
    (∀ accept holds, scroller.Reads direction page element path accept holds → ∃ visited,
      scroller.Ends direction page element path holds visited
        ((scroller.untilAccepted Page.browser direction path accept).outcome page)) ∧
    (∃ visited, scroller.Ends direction page element path (fun _ _ => true) visited
      ((scroller.untilPresent Page.browser direction path).outcome page)) ∧
    ∀ least greatest handles rules, page.rules.get? path.toXPath = some rules →
      ⟨handles, some (direction.window scroller.container least greatest)⟩ ∈ rules → handles ≠ [] →
      0 < scroller.settings.step → 1 ≤ scroller.settings.maxStalls →
      direction.place (page.offset scroller.container) ≤ greatest →
      least ≤ max 0 (direction.place element.extent) →
      scroller.settings.step - 1 ≤ greatest - least →
      ∃ handle, ((scroller.untilPresent Page.browser direction path).outcome page).1 = .ok handle := by
  have inRange := reachable.inRange
  have present := untilPresent_ends path inRange live spans stallsFit
  refine ⟨fun _ _ reads => untilAccepted_ends inRange live spans stallsFit reads, present, ?_⟩
  intro least greatest handles rules registered mem some forward patient ahead within wide
  obtain ⟨nonneg, inside⟩ := (inRange.live _ _ live).place direction
  obtain ⟨steps, inTime, reached, upTo⟩ :=
    exists_stop_between nonneg inside forward patient ahead within wide
  obtain ⟨visited, ends⟩ := present
  generalize (scroller.untilPresent Page.browser direction path).outcome page = ended at ends
  cases ends with
  | found steps handle after => exact ⟨handle, rfl⟩
  | exhausted after stood missed =>
      have none := missed steps inTime
      rw [firstMatch_present, List.head?_eq_none_iff] at none
      exact absurd none ((stood steps inTime).resolve_ne_nil registered mem some reached upTo)

/-- A list of 300 pixels whose item shows up at its lower end, where only a shortened step leads. -/
def listPage : Page :=
  let list : Handle := ⟨"list"⟩
  let item : Handle := ⟨"item"⟩
  let blank : Page := {}
  let filled := (blank.add list { extent := ⟨0, 300⟩ }).add item { tag := "li" }
  let registered := filled.registerXPath Html.listItem.toXPath ⟨[item], some (Direction.down.window list 260 400)⟩
  ((Page.browser.scrollTo list none (some 50)).outcome registered).2

theorem listPage_reachable : listPage.Reachable :=
  .change (.change (.change (.change .blank (.add ⟨"list"⟩ _ (by decide))) (.add ⟨"item"⟩ _ (by decide)))
    (.registerXPath _ _)) (.scrollTo _ _ _)

theorem search_stands_at_stops_shortened :
    let scroller : Scroller := ⟨⟨"list"⟩, { step := 100, maxStalls := 1 }⟩
    (∃ visited, scroller.Ends .down listPage { extent := ⟨0, 300⟩ } Html.listItem
      (fun handle after => ((after.elements.get? handle.id).map Element.displayed).getD false) visited
      ((scroller.untilAccepted Page.browser .down Html.listItem Page.browser.isDisplayed).outcome listPage)) ∧
    ∃ handle, ((scroller.untilPresent Page.browser .down Html.listItem).outcome listPage).1 = .ok handle := by
  intro scroller
  obtain ⟨accepted, _, present⟩ := search_stands_at_stops listPage listPage_reachable scroller
    { extent := ⟨0, 300⟩ } (by decide +kernel) .down ⟨by decide, by decide, by decide, by decide⟩ (by decide)
    Html.listItem
  constructor
  · apply accepted
    apply reads_onElement fun _ element => element.displayed
    have registered : listPage.rules.get? Html.listItem.toXPath =
        some [⟨[⟨"item"⟩], some (Direction.down.window ⟨"list"⟩ 260 400)⟩] := by decide +kernel
    intro rules found rule memRule handle memHandle
    rw [registered] at found
    cases found
    simp only [List.mem_singleton] at memRule
    subst memRule
    simp only [List.mem_singleton] at memHandle
    subst memHandle
    exact ⟨{ tag := "li" }, by decide +kernel⟩
  · exact present 260 400 [⟨"item"⟩] [⟨[⟨"item"⟩], some (Direction.down.window ⟨"list"⟩ 260 400)⟩]
      (by decide +kernel) (List.mem_singleton.mpr rfl) (by simp) (by decide) (by decide)
      (by decide +kernel) (by decide) (by decide)

end Scroller

end Locator
