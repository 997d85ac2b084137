import Locator.Proofs.Interaction.Dropdown

/-!
# How far a dropdown is scrolled

The search starts at the top of the list and goes down step by step, so it comes to a stop where the option ends
within the list if the list can be scrolled that far at all, and the first such stop is at most a step too far.
-/

namespace Locator

set_option autoImplicit false

/-- How far the content can be scrolled down. -/
def Element.scrollRange (element : Element) : Int :=
  max 0 element.extent.y

/-- How far a list has to be scrolled at least for an element on its content to end within it. -/
def Element.overhang (element list : Element) : Int :=
  element.rect.y + element.rect.height - (list.rect.y + list.rect.height)

namespace Page

open Locator.Action

/-- No sum of a search for an element on the content of a list leaves the 64-bit range: neither a step, nor the lower
edge of the list, nor, wherever the list is scrolled, an edge of the element. -/
structure Measurable (bounds element : Element) (step : Int) : Prop where
  spans : bounds.Spans .down step
  list : IsSigned64 (bounds.rect.y + bounds.rect.height)
  top : ∀ place, 0 ≤ place → place ≤ bounds.scrollRange → IsSigned64 (element.rect.y - place)
  bottom : ∀ place, 0 ≤ place → place ≤ bounds.scrollRange →
    IsSigned64 (element.rect.y - place + element.rect.height)

/-- The list of a dropdown, which is not placed on the content of another container, and the only match of an option,
which does not come and go, is displayed, and is placed on the content of the list. -/
structure Offers (page : Page) (content choice : Path) (list option : Handle) (bounds element : Element) : Prop where
  listed : page.first? (Html.parentOf content) = some list
  live : page.elements.get? list.id = some bounds
  fixed : bounds.anchor = none
  unwindowed : ∀ rules, page.rules.get? choice.toXPath = some rules → ∀ rule ∈ rules, rule.window = none
  only : page.resolve choice.toXPath = [option]
  there : page.elements.get? option.id = some element
  displayed : element.displayed = true
  anchored : element.anchor = some list

/-- The page with a container scrolled to a place as in `suits`. -/
structure ScrolledTo (page : Page) (list : Handle) (suits : Int → Prop) (after : Page) : Prop where
  like : page.Like after
  place : suits (after.offset list).y

/-- A place to which the list can be scrolled and where the option ends within it; a step before, it would not. -/
structure Brings (bounds element : Element) (step place : Int) : Prop where
  enough : element.overhang bounds ≤ place
  possible : place ≤ bounds.scrollRange
  barely : place = 0 ∨ place < element.overhang bounds + step

/-- Nothing is found, and however far the list is scrolled, the option does not end within it. -/
def OutOfReach (bounds element : Element) (error : Error) : Prop :=
  error.isNotFound = true ∧ bounds.scrollRange < element.overhang bounds

variable {page after : Page} {content choice : Path} {list option : Handle} {bounds element : Element} {step : Int}
  {suits : Int → Prop}

theorem ScrolledTo.of_same {current : Page} (scrolled : page.ScrolledTo list suits current)
    (elements : after.elements = current.elements) (rules : after.rules = current.rules)
    (offsets : after.offsets = current.offsets) : page.ScrolledTo list suits after := by
  refine ⟨scrolled.like.of_same elements rules offsets, ?_⟩
  rw [offset, offsets]
  exact scrolled.place

theorem setImplicitTimeout_scrolled (milliseconds : Nat) :
    Concludes (page.ScrolledTo list suits) (browser.setImplicitTimeout milliseconds)
      (fun _ => page.ScrolledTo list suits) fun _ _ => False := by
  intro now scrolled
  exact scrolled.of_same rfl rfl rfl

section Offers

variable (offers : page.Offers content choice list option bounds element)

include offers

/-! ## What is met at a stop -/

theorem Offers.place_between (like : page.Like after) :
    0 ≤ (after.offset list).y ∧ (after.offset list).y ≤ bounds.scrollRange := by
  have admits := like.inRange.live list bounds (like.elements ▸ offers.live)
  exact ⟨admits.top, admits.bottom⟩

theorem Offers.top_eq (measurable : Measurable bounds element step) (like : page.Like after) :
    (after.rect element).y = element.rect.y - (after.offset list).y := by
  obtain ⟨nonneg, inside⟩ := offers.place_between like
  simp only [rect, offers.anchored, (measurable.top _ nonneg inside).wrapped_eq]

theorem Offers.bottom_eq (measurable : Measurable bounds element step) (like : page.Like after) :
    (after.rect element).bottom = element.rect.y - (after.offset list).y + element.rect.height := by
  obtain ⟨nonneg, inside⟩ := offers.place_between like
  have kept := measurable.bottom _ nonneg inside
  rw [← offers.top_eq measurable like] at kept ⊢
  have height : (after.rect element).height = element.rect.height := by
    rw [rect, offers.anchored]
  rw [Rect.bottom, height, kept.wrapped_eq]

theorem Offers.liesIn_iff (measurable : Measurable bounds element step) (like : page.Like after) :
    after.liesIn list option = true ↔ element.overhang bounds ≤ (after.offset list).y := by
  have listBox : (after.rect bounds).bottom = bounds.rect.y + bounds.rect.height := by
    rw [rect, offers.fixed]
    exact measurable.list.wrapped_eq
  rw [Page.liesIn_iff, like.elements, offers.live, offers.there]
  simp only [Option.some.injEq, exists_eq_left', exists_and_left, offers.displayed, offers.bottom_eq measurable like,
    listBox, Element.overhang, true_and]
  omega

theorem Offers.resolve_eq (like : page.Like after) : after.resolve choice.toXPath = [option] :=
  (resolve_eq_of_unwindowed offers.unwindowed like.rules).trans offers.only

theorem Offers.firstInList_eq_none_iff (measurable : Measurable bounds element step) (like : page.Like after) :
    after.firstInList list choice = none ↔ (after.offset list).y < element.overhang bounds := by
  have lies := offers.liesIn_iff measurable like
  rw [firstInList, firstMatch, offers.resolve_eq like, List.find?_eq_none]
  simp only [List.mem_singleton, forall_eq, lies, Int.not_le]

/-! ## The search -/

section Search

variable {scroller : Scroller} (container : scroller.container = list) {current : Page}

include container

theorem Offers.like_of_stands (like : page.Like current) {steps : Nat}
    (stands : scroller.Stands .down current bounds steps after) :
    page.Like after := by
  have live : current.elements.get? scroller.container.id = some bounds :=
    like.elements ▸ container ▸ offers.live
  exact ⟨stands.elements.trans like.elements, stands.rules.trans like.rules, stands.inRange like.inRange live⟩

theorem Offers.reads (like : page.Like current) :
    scroller.Reads .down current bounds choice (browser.liesInList list)
      fun handle page => page.liesIn list handle := by
  apply Scroller.reads_of_answers
  intro steps after stands handle mem
  have likeAfter := offers.like_of_stands container like stands
  rw [offers.resolve_eq likeAfter, List.mem_singleton] at mem
  subst mem
  have answer := liesIn?_of_live (likeAfter.elements ▸ offers.live) (likeAfter.elements ▸ offers.there)
  rw [outcome_liesInList, liesIn, answer]
  rfl

/-- The search passes by no stop where the option ends within the list, and comes to one if there is any place
where it does. -/
theorem Offers.search_brings (measurable : Measurable bounds element scroller.settings.step)
    (forward : 0 < scroller.settings.step) (patient : 1 ≤ scroller.settings.maxStalls)
    (stallsFit : scroller.settings.maxStalls < 0x100000000) :
    Concludes (page.ScrolledTo list (· = 0)) (scroller.untilAccepted browser .down choice (browser.liesInList list))
      (fun _ => page.ScrolledTo list (Brings bounds element scroller.settings.step))
      fun error _ => OutOfReach bounds element error := by
  rintro current ⟨like, top⟩
  subst container
  have live : current.elements.get? scroller.container.id = some bounds := like.elements ▸ offers.live
  have start : Direction.down.place (current.offset scroller.container) = 0 := top
  have inside : (0 : Int) ≤ bounds.scrollRange := Int.le_max_left _ _
  have stop_eq (steps : Nat) : scroller.stop .down current bounds steps =
      Locator.stop bounds.scrollRange 0 scroller.settings.step steps := by
    rw [Scroller.stop, start]
    rfl
  have stands_at {steps : Nat} {after : Page} (stands : scroller.Stands .down current bounds steps after) :
      (after.offset scroller.container).y = Locator.stop bounds.scrollRange 0 scroller.settings.step steps := by
    rw [stands.offset, if_pos rfl, ← stop_eq]
    rfl
  have missed_iff {steps : Nat} {after : Page} (stands : scroller.Stands .down current bounds steps after) :
      after.firstInList scroller.container choice = none ↔
        Locator.stop bounds.scrollRange 0 scroller.settings.step steps < element.overhang bounds := by
    rw [offers.firstInList_eq_none_iff measurable (offers.like_of_stands rfl like stands), stands_at stands]
  obtain ⟨visited, ends⟩ :=
    Scroller.untilAccepted_ends like.inRange live measurable.spans stallsFit (offers.reads rfl like)
  generalize (scroller.untilAccepted browser .down choice (browser.liesInList scroller.container)).outcome current =
    ended at ends ⊢
  cases ends with
  | found steps handle after inTime stood missed here left =>
      refine ⟨offers.like_of_stands rfl like left, ?_⟩
      rw [stands_at left]
      constructor
      case enough =>
        have reached := (missed_iff (stood steps (Nat.le_refl _))).not.mp (by rw [firstInList, here]; simp)
        omega
      case possible => exact (stop_between _ (Int.le_refl 0) inside steps).2
      case barely =>
        apply stop_barely (Int.le_refl 0) inside forward
        exact fun earlier before => (missed_iff (stood earlier (Nat.le_of_lt before))).mp (missed earlier before)
  | exhausted after stood missed left =>
      refine ⟨rfl, ?_⟩
      -- A search that comes to every stop would have ended at the first one that is far enough.
      by_contra within
      obtain ⟨steps, inTime, reached⟩ :=
        exists_stop_reaching (Int.le_refl 0) inside forward patient (Int.not_lt.mp within)
      have inTime' : steps ≤ scroller.lastStep .down current bounds := by
        rw [Scroller.lastStep, start]
        exact inTime
      have short := (missed_iff (stood steps inTime')).mp (missed steps inTime')
      omega

end Search

/-! ## The whole selection -/

theorem Offers.toTopEdge_scrolls {scroller : Scroller} (container : scroller.container = list)
    {bad : Error → Page → Prop} :
    Concludes page.Like (scroller.toTopEdge browser) (fun _ => page.ScrolledTo list (· = 0)) bad := by
  subst container
  intro now like
  have live : now.elements.get? scroller.container.id = some bounds := like.elements ▸ offers.live
  have scrolls : (scroller.toTopEdge browser).outcome now = _ := outcome_scrollTo live none (some 0)
  have recorded : page.Like (now.record (.scrollTo scroller.container none (some 0))) := like.of_same rfl rfl rfl
  rw [scrolls]
  refine ⟨recorded.moved offers.live (bounds.clampOffset_admits _), ?_⟩
  rw [offset_moved, if_pos rfl]
  simp only [Element.clampOffset, Element.clamp, placed, Option.getD_some]
  omega

theorem Offers.clickOn_scrolls {bad : Error → Page → Prop} :
    Concludes (page.ScrolledTo list suits) (browser.clickOn (.path choice))
      (fun _ => page.ScrolledTo list suits) bad := by
  intro now scrolled
  have first : now.first? choice = some option := by
    rw [first?, offers.resolve_eq scrolled.like]
    rfl
  rw [outcome_clickOn first (scrolled.like.elements ▸ offers.there)]
  exact scrolled.of_same rfl rfl rfl

theorem Offers.selectFromTop_brings {scroller : Scroller} (container : scroller.container = list)
    (measurable : Measurable bounds element scroller.settings.step) (forward : 0 < scroller.settings.step)
    (patient : 1 ≤ scroller.settings.maxStalls)
    (stallsFit : scroller.settings.maxStalls < 0x100000000) (during : Nat) :
    Concludes page.Like
      (do
        scroller.toTopEdge browser
        let _ ← browser.withLoweredTimeout during
          (scroller.untilAccepted browser .down choice (browser.liesInList scroller.container))
        let _ ← browser.clickOn (.path choice))
      (fun _ => page.ScrolledTo list (Brings bounds element scroller.settings.step))
      fun error _ => OutOfReach bounds element error := by
  subst container
  apply (offers.toTopEdge_scrolls rfl).bind
  intro _
  have sets : Concludes (page.ScrolledTo scroller.container (· = 0)) (browser.setImplicitTimeout during)
      (fun _ => page.ScrolledTo scroller.container (· = 0)) fun error _ => OutOfReach bounds element error :=
    (setImplicitTimeout_scrolled during).weaken (fun _ _ ended => ended) fun _ _ => False.elim
  have lowered := sets.withLoweredTimeout (offers.search_brings rfl measurable forward patient stallsFit)
    (fun _ _ _ scrolled => scrolled.of_same rfl rfl rfl) fun _ _ _ missed => missed
  apply lowered.bind
  intro _
  apply offers.clickOn_scrolls.bind
  intro _
  exact .pure fun _ scrolled => scrolled

theorem Offers.selectInDropdown_brings (inRange : page.InRange) {settings : DropdownSettings}
    (measurable : Measurable bounds element settings.step) (forward : 0 < settings.step) :
    Concludes (fun now => now = page) (browser.selectInDropdown content choice settings)
      (fun _ => page.ScrolledTo list (Brings bounds element settings.step))
      fun error _ => OutOfReach bounds element error := by
  have lists : Concludes (fun now => now = page) (Scroller.ofTarget browser (.path (Html.parentOf content)))
      (fun scroller now => scroller = { container := list } ∧ page.Like now)
      fun error _ => OutOfReach bounds element error := by
    rintro now rfl
    rw [outcome_ofTarget_of_first? offers.listed]
    exact ⟨rfl, (Like.refl inRange).of_same rfl rfl rfl⟩
  apply lists.bind
  intro scroller
  apply Concludes.given (scroller = { container := list }) fun _ ended => ended.1
  rintro rfl
  have selects := offers.selectFromTop_brings (rfl : (Scroller.withStep ⟨list, {}⟩ settings.step).container = list)
    measurable forward (show 1 ≤ 2 by decide) (show 2 < 0x100000000 by decide) settings.lookupTimeout
  exact selects.strengthen fun _ ended => ended.2

end Offers

/-- A list of 100 pixels with an item in a box on its content, scrolled down. -/
def dropdownPage (box : Rect) : Page :=
  let list : Handle := ⟨"list"⟩
  let blank : Page := {}
  let withList := blank.add list { rect := ⟨0, 0, 200, 100⟩, extent := ⟨0, 500⟩ }
  let withItem := withList.add ⟨"item"⟩ { rect := box, anchor := some list }
  let registered := (withItem.register (Html.parentOf Html.unorderedList) ⟨[list], none⟩).register
    Html.listItem ⟨[⟨"item"⟩], none⟩
  ((browser.scrollTo list none (some 400)).outcome registered).2

theorem dropdownPage_reachable (box : Rect) : (dropdownPage box).Reachable := by
  refine .change ?_ (.scrollTo _ _ _)
  iterate 2 refine .change ?_ (.registerXPath _ _)
  iterate 2 refine .change ?_ (.add _ _ rfl)
  exact .blank

theorem dropdownPage_offers (box : Rect) : (dropdownPage box).Offers Html.unorderedList Html.listItem ⟨"list"⟩ ⟨"item"⟩
    { rect := ⟨0, 0, 200, 100⟩, extent := ⟨0, 500⟩ } { rect := box, anchor := some ⟨"list"⟩ } := by
  have rules : (dropdownPage box).rules = (dropdownPage ⟨0, 0, 0, 0⟩).rules := rfl
  have resolve (path : Path) :
      (dropdownPage box).resolve path.toXPath = (dropdownPage ⟨0, 0, 0, 0⟩).resolve path.toXPath := rfl
  constructor
  case listed =>
    rw [first?, resolve]
    decide +kernel
  case live => rfl
  case fixed => rfl
  case unwindowed =>
    intro found registered rule mem
    rw [rules, show (dropdownPage ⟨0, 0, 0, 0⟩).rules.get? Html.listItem.toXPath = some [⟨[⟨"item"⟩], none⟩] by
      decide +kernel] at registered
    cases registered
    rw [List.mem_singleton.mp mem]
  case only =>
    rw [resolve]
    decide +kernel
  case there => rfl
  case displayed => rfl
  case anchored => rfl

end Page

end Locator
