import Locator.Proofs.Browser.Conclusions
import Locator.Proofs.Page.Search

/-!
# Fully rendered pages

On a page without windows, what a query finds does not depend on how the page is scrolled, so a search finds
its target where it starts or not at all.
-/

namespace Locator

set_option autoImplicit false

namespace Page

/-- Nothing that a query finds comes and goes, and all of it is live and displayed. -/
structure FullyRendered (page : Page) : Prop where
  unwindowed : ∀ xpath rules, page.rules.get? xpath = some rules → ∀ rule ∈ rules, rule.window = none
  shown : ∀ xpath rules, page.rules.get? xpath = some rules → ∀ rule ∈ rules, ∀ handle ∈ rule.handles,
    ∃ element, page.elements.get? handle.id = some element ∧ element.displayed = true

/-- The first match of a path. -/
def first? (page : Page) (path : Path) : Option Handle :=
  (page.resolve path.toXPath).head?

variable {base page : Page} {step : Int}

theorem FullyRendered.of_entries
    (rules : ∀ entry ∈ page.rules.entries, ∀ rule ∈ entry.2, rule.window = none ∧
      ∀ handle ∈ rule.handles, (page.elements.get? handle.id).map Element.displayed = some true) :
    page.FullyRendered := by
  constructor
  · intro xpath registered found rule mem
    exact (rules _ (Keyed.mem_of_get? found) rule mem).1
  · intro xpath registered found rule mem handle named
    exact Option.map_eq_some_iff.mp ((rules _ (Keyed.mem_of_get? found) rule mem).2 handle named)

theorem first?_eq_some_iff {path : Path} {handle : Handle} :
    page.first? path = some handle ↔ ∃ others, page.resolve path.toXPath = handle :: others := by
  unfold first?
  cases page.resolve path.toXPath <;> simp

theorem first?_eq_none_iff {path : Path} : page.first? path = none ↔ page.resolve path.toXPath = [] := by
  rw [first?, List.head?_eq_none_iff]

theorem Like.refl (inRange : page.InRange) : page.Like page :=
  ⟨rfl, rfl, inRange⟩

/-- A page keeps its content when only calls are recorded or the timeout is set. -/
theorem Like.of_same {after : Page} (like : base.Like page) (elements : after.elements = page.elements)
    (rules : after.rules = page.rules) (offsets : after.offsets = page.offsets) : base.Like after := by
  constructor
  · rw [elements, like.elements]
  · rw [rules, like.rules]
  · have same (handle : Handle) : after.offset handle = page.offset handle := by
      rw [offset, offset, offsets]
    constructor
    · intro handle element live
      rw [same]
      exact like.inRange.live handle element (elements ▸ live)
    · intro handle dead
      rw [same]
      exact like.inRange.dead handle (elements ▸ dead)

theorem Like.moved {handle : Handle} {element : Element} {offset : Offset} (like : base.Like page)
    (live : base.elements.get? handle.id = some element) (admits : element.Admits offset) :
    base.Like (page.moved handle offset) := by
  have live' : page.elements.get? handle.id = some element := like.elements ▸ live
  constructor
  · exact like.elements
  · exact like.rules
  · constructor
    · intro other found there
      rw [offset_moved]
      split
      case isTrue same =>
          subst same
          rw [show (page.moved other offset).elements = page.elements from rfl, live'] at there
          cases there
          exact admits
      case isFalse => exact like.inRange.live other found there
    · intro other dead
      rw [offset_moved]
      split
      case isTrue same =>
          subst same
          rw [show (page.moved other offset).elements = page.elements from rfl, live'] at dead
          cases dead
      case isFalse => exact like.inRange.dead other dead

/-- What a query without windows finds does not depend on how the page is scrolled. -/
theorem resolve_eq_of_unwindowed {xpath : String}
    (unwindowed : ∀ rules, base.rules.get? xpath = some rules → ∀ rule ∈ rules, rule.window = none)
    (rules : page.rules = base.rules) : page.resolve xpath = base.resolve xpath := by
  unfold resolve
  rw [rules]
  cases registered : base.rules.get? xpath with
  | none => rfl
  | some registeredRules =>
      have always (any : Page) (rule : Rule) (mem : rule ∈ registeredRules) : any.applies rule = true := by
        rw [applies, unwindowed registeredRules registered rule mem]
        rfl
      simp only [Option.getD_some]
      rw [List.filter_eq_self.mpr (always page), List.filter_eq_self.mpr (always base)]

theorem FullyRendered.resolve_eq (rendered : base.FullyRendered) (rules : page.rules = base.rules)
    (xpath : String) : page.resolve xpath = base.resolve xpath :=
  resolve_eq_of_unwindowed (rendered.unwindowed xpath) rules

theorem FullyRendered.shown_of_mem (rendered : base.FullyRendered) {xpath : String} {handle : Handle}
    (mem : handle ∈ base.resolve xpath) :
    ∃ element, base.elements.get? handle.id = some element ∧ element.displayed = true := by
  rw [resolve, mem_firstMentions] at mem
  obtain ⟨rule, applied, named⟩ := List.mem_flatMap.mp mem
  cases registered : base.rules.get? xpath with
  | none => simp [registered] at applied
  | some rules =>
      simp only [registered, Option.getD_some] at applied
      exact rendered.shown xpath rules registered rule (List.mem_of_mem_filter applied) handle named

theorem FullyRendered.shown_of_first? (rendered : base.FullyRendered) {path : Path} {handle : Handle}
    (first : base.first? path = some handle) :
    ∃ element, base.elements.get? handle.id = some element ∧ element.displayed = true := by
  obtain ⟨others, found⟩ := first?_eq_some_iff.mp first
  exact rendered.shown_of_mem (found ▸ List.mem_cons_self)

/-! ## Operations -/

theorem FullyRendered.find_keeps (rendered : base.FullyRendered) (path : Path) :
    Action.Keeps base.Like (browser.find path) (fun handle => base.first? path = some handle)
      fun error => base.first? path = none ∧ error.isNotFound = true := by
  intro page like
  have resolved := rendered.resolve_eq like.rules path.toXPath
  cases found : base.resolve path.toXPath with
  | nil =>
      rw [found] at resolved
      rw [outcome_find_of_nil resolved]
      exact ⟨⟨first?_eq_none_iff.mpr found, rfl⟩, like.of_same rfl rfl rfl⟩
  | cons handle others =>
      rw [found] at resolved
      rw [outcome_find_of_cons resolved]
      exact ⟨first?_eq_some_iff.mpr ⟨others, found⟩, like.of_same rfl rfl rfl⟩

theorem FullyRendered.findAll_keeps (rendered : base.FullyRendered) (path : Path) :
    Action.Keeps base.Like (browser.findAll path) (fun found => found = base.resolve path.toXPath)
      fun _ => False := by
  intro page like
  exact ⟨rendered.resolve_eq like.rules path.toXPath, like.of_same rfl rfl rfl⟩

theorem setImplicitTimeout_keeps (milliseconds : Nat) :
    Action.Keeps base.Like (browser.setImplicitTimeout milliseconds) (fun _ => True) fun _ => False := by
  intro page like
  exact ⟨trivial, like.of_same rfl rfl rfl⟩

section Live

variable {handle : Handle} {element : Element} (live : base.elements.get? handle.id = some element)

include live

theorem attribute?_keeps (name : String) :
    Action.Keeps base.Like (browser.attribute? handle name) (fun value => value = element.attribute? name)
      fun _ => False := by
  intro page like
  rw [outcome_attribute? (like.elements ▸ live)]
  exact ⟨rfl, like⟩

theorem isDisplayed_keeps :
    Action.Keeps base.Like (browser.isDisplayed handle) (fun displayed => displayed = element.displayed)
      fun _ => False := by
  intro page like
  rw [outcome_isDisplayed (like.elements ▸ live)]
  exact ⟨rfl, like⟩

/-- An element is never below the place it has when nothing is scrolled. -/
theorem rect_keeps (sized : base.Sized step) :
    Action.Keeps base.Like (browser.rect handle)
      (fun box => box.y ≤ element.rect.y ∧ (element.anchor = none → box = element.rect)) fun _ => False := by
  intro page like
  rw [outcome_rect (like.elements ▸ live), rect_eq sized like live]
  cases anchor : element.anchor with
  | none => simp [shift_of_fixed anchor, Rect.shifted, Offset.zero, like]
  | some container =>
      have nonneg := like.inRange.nonneg container
      simp only [shift_of_anchored anchor, Rect.shifted, like, and_true, reduceCtorEq, false_implies]
      omega

theorem scrollTo_keeps (x y : Option Int) :
    Action.Keeps base.Like (browser.scrollTo handle x y) (fun _ => True) fun _ => False := by
  intro page like
  rw [outcome_scrollTo (like.elements ▸ live)]
  have recorded : base.Like (page.record (.scrollTo handle x y)) := like.of_same rfl rfl rfl
  exact ⟨trivial, recorded.moved live (element.clampOffset_admits _)⟩

end Live

/-- A search for presence finds the first match at once or nothing at all. -/
theorem FullyRendered.untilPresent_keeps (rendered : base.FullyRendered) {scroller : Scroller} {element : Element}
    (sized : base.Sized scroller.settings.step)
    (live : base.elements.get? scroller.container.id = some element)
    (stallsFit : scroller.settings.maxStalls < 0x100000000) (direction : Direction) (path : Path) :
    Action.Keeps base.Like (scroller.untilPresent browser direction path)
      (fun handle => base.first? path = some handle)
      fun error => base.first? path = none ∧ error.isNotFound = true := by
  intro page like
  have live' : page.elements.get? scroller.container.id = some element := like.elements ▸ live
  have spans := sized.spans _ _ live direction
  obtain ⟨visited, ends⟩ := Scroller.untilPresent_ends path like.inRange live' spans stallsFit
  have first {steps : Nat} {after : Page} (stands : scroller.Stands direction page element steps after) :
      after.firstMatch path (fun _ _ => true) = base.first? path := by
    rw [Scroller.firstMatch_present, rendered.resolve_eq (stands.rules.trans like.rules), first?]
  have kept {steps : Nat} {after : Page} (stands : scroller.Stands direction page element steps after) :
      base.Like after :=
    ⟨stands.elements.trans like.elements, stands.rules.trans like.rules,
      stands.inRange like.inRange live'⟩
  generalize (scroller.untilPresent browser direction path).outcome page = ended at ends ⊢
  cases ends with
  | found steps handle after inTime stood missed here left =>
      exact ⟨first (stood steps (Nat.le_refl _)) ▸ here, kept left⟩
  | exhausted after stood missed left =>
      exact ⟨⟨first (stood 0 (Nat.zero_le _)) ▸ missed 0 (Nat.zero_le _), rfl⟩, kept left⟩

end Page

end Locator
