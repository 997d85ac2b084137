import Locator.Proofs.Page.Steady

/-!
# Pages that can come about

A page starts out empty and changes by what is registered on it and by the operations of its browser,
whether these fail or not. On every page that comes about so, the offsets that are kept belong to elements
of the page and lie in the range of these.
-/

namespace Locator

set_option autoImplicit false

/-- The offset is one that the content of the element can be scrolled to. -/
structure Element.Admits (element : Element) (offset : Offset) : Prop where
  left : 0 ≤ offset.x
  right : offset.x ≤ max 0 element.extent.x
  top : 0 ≤ offset.y
  bottom : offset.y ≤ max 0 element.extent.y

theorem Element.clampOffset_admits (element : Element) (offset : Offset) :
    element.Admits (element.clampOffset offset) := by
  simp only [clampOffset, clamp]
  constructor <;> simp only <;> omega

theorem Element.admits_zero (element : Element) : element.Admits .zero := by
  simp only [Offset.zero]
  constructor <;> simp only <;> omega

theorem Element.Admits.of_extent {element other : Element} {offset : Offset}
    (admits : element.Admits offset) (same : other.extent = element.extent) : other.Admits offset := by
  exact ⟨admits.left, same ▸ admits.right, admits.top, same ▸ admits.bottom⟩

theorem Element.receive_extent (element : Element) (keys : String) :
    (element.receive keys).extent = element.extent := by
  unfold receive
  split <;> rfl

theorem Element.cleared_extent (element : Element) : element.cleared.extent = element.extent := by
  unfold cleared
  split <;> rfl

namespace Page

/-- Every offset that is kept belongs to an element of the page and lies in its range. -/
def OffsetsBelong (page : Page) : Prop :=
  ∀ id offset, page.offsets.get? id = some offset →
    ∃ element, page.elements.get? id = some element ∧ element.Admits offset

/-- One change of a page. -/
inductive Change (page : Page) : Page → Prop where
  /-- An element comes under an id of its own. -/
  | add (handle : Handle) (element : Element) (own : page.elements.get? handle.id = none) :
      Change page (page.add handle element)
  | registerXPath (xpath : String) (rule : Rule) : Change page (page.registerXPath xpath rule)
  | unregister (path : Path) : Change page (page.unregister path)
  | setValue (handle : Handle) (value : String) : Change page (page.setValue handle value)
  | clearHistory : Change page page.clearHistory
  | find (path : Path) : Change page ((browser.find path).outcome page).2
  | findAll (path : Path) : Change page ((browser.findAll path).outcome page).2
  | click (handle : Handle) : Change page ((browser.click handle).outcome page).2
  | sendKeys (handle : Handle) (keys : String) :
      Change page ((browser.sendKeys handle keys).outcome page).2
  | clear (handle : Handle) : Change page ((browser.clear handle).outcome page).2
  | readAttribute (handle : Handle) (name : String) :
      Change page ((browser.attribute? handle name).outcome page).2
  | rect (handle : Handle) : Change page ((browser.rect handle).outcome page).2
  | isDisplayed (handle : Handle) : Change page ((browser.isDisplayed handle).outcome page).2
  | scrollBy (handle : Handle) (dx dy : Int) :
      Change page ((browser.scrollBy handle dx dy).outcome page).2
  | scrollTo (handle : Handle) (x y : Option Int) :
      Change page ((browser.scrollTo handle x y).outcome page).2
  | scrollOffset (handle : Handle) : Change page ((browser.scrollOffset handle).outcome page).2
  | setImplicitTimeout (milliseconds : Nat) :
      Change page ((browser.setImplicitTimeout milliseconds).outcome page).2

/-- The pages that come about from an empty one. -/
inductive Reachable : Page → Prop where
  | blank : Reachable {}
  | change {page after : Page} (reachable : Reachable page) (change : Change page after) : Reachable after

/-! ## The range of offsets -/

/-- The offsets belong still when no element has lost its extent. -/
theorem OffsetsBelong.of_extents {page after : Page} (belong : page.OffsetsBelong)
    (offsets : after.offsets = page.offsets)
    (extents : ∀ id element, page.elements.get? id = some element →
      ∃ other, after.elements.get? id = some other ∧ other.extent = element.extent) :
    after.OffsetsBelong := by
  intro id offset kept
  rw [offsets] at kept
  obtain ⟨element, found, admits⟩ := belong id offset kept
  obtain ⟨other, foundAfter, same⟩ := extents id element found
  exact ⟨other, foundAfter, admits.of_extent same⟩

theorem OffsetsBelong.of_same {page after : Page} (belong : page.OffsetsBelong)
    (offsets : after.offsets = page.offsets) (elements : after.elements = page.elements) :
    after.OffsetsBelong :=
  belong.of_extents offsets fun _ element found => ⟨element, elements ▸ found, rfl⟩

theorem OffsetsBelong.add {page : Page} {handle : Handle} {changed : Element} (belong : page.OffsetsBelong)
    (keeps : ∀ element, page.elements.get? handle.id = some element → changed.extent = element.extent) :
    (page.add handle changed).OffsetsBelong := by
  have extents : ∀ id element, page.elements.get? id = some element →
      ∃ other, (page.add handle changed).elements.get? id = some other ∧
        other.extent = element.extent := by
    intro id element found
    simp only [Page.add, Keyed.get?_insert]
    by_cases same : handle.id = id
    · subst same
      exact ⟨changed, by simp, keeps element found⟩
    · exact ⟨element, by simp [same, found], rfl⟩
  exact belong.of_extents rfl extents

theorem element?_eq_ok_iff {page : Page} {handle : Handle} {element : Element} :
    page.element? handle = .ok element ↔ page.elements.get? handle.id = some element := by
  unfold element?
  cases page.elements.get? handle.id <;> simp

theorem OffsetsBelong.modify {page after : Page} {handle : Handle} {change : Element → Element}
    (belong : page.OffsetsBelong) (keeps : ∀ element, (change element).extent = element.extent)
    (changed : page.modify handle change = .ok after) : after.OffsetsBelong := by
  unfold Page.modify at changed
  cases found : page.element? handle with
  | error error => simp [found] at changed
  | ok element =>
      simp only [found, Except.ok.injEq] at changed
      subst changed
      apply belong.add
      intro other foundOther
      rw [element?_eq_ok_iff.mp found] at foundOther
      cases foundOther
      exact keeps element

theorem OffsetsBelong.setOffset {page after : Page} {handle : Handle} {offset : Offset}
    (belong : page.OffsetsBelong) (changed : page.setOffset handle offset = .ok after) : after.OffsetsBelong := by
  unfold Page.setOffset at changed
  cases found : page.element? handle with
  | error error => simp [found] at changed
  | ok element =>
      simp only [found, Except.ok.injEq] at changed
      subst changed
      intro id kept keptAfter
      simp only [Keyed.get?_insert] at keptAfter
      by_cases same : handle.id = id
      · subst same
        simp only [if_pos, Option.some.injEq] at keptAfter
        subst keptAfter
        exact ⟨element, element?_eq_ok_iff.mp found, element.clampOffset_admits offset⟩
      · simp only [if_neg same] at keptAfter
        exact belong id kept keptAfter

theorem OffsetsBelong.recorded {page : Page} {call : Call} {change : Page → Except Error Page}
    (belong : page.OffsetsBelong)
    (keeps : ∀ after, change (page.record call) = .ok after → after.OffsetsBelong) :
    ((Page.recorded call change).outcome page).2.OffsetsBelong := by
  unfold Page.recorded Action.outcome
  cases changed : change (page.record call) with
  | error error =>
      simp only [ExceptT.run, StateT.run, changed]
      exact belong.of_same rfl rfl
  | ok after =>
      simp only [ExceptT.run, StateT.run, changed]
      exact keeps after changed

theorem OffsetsBelong.setValue {page : Page} (belong : page.OffsetsBelong) (handle : Handle) (value : String) :
    (page.setValue handle value).OffsetsBelong := by
  unfold Page.setValue
  split
  case h_1 => exact belong
  case h_2 element found =>
      apply belong.add
      intro other foundOther
      rw [found] at foundOther
      cases foundOther
      rfl

theorem OffsetsBelong.change {page after : Page} (belong : page.OffsetsBelong) (change : Change page after) :
    after.OffsetsBelong := by
  cases change with
  | add handle element own =>
      apply belong.add
      intro other found
      rw [own] at found
      cases found
  | registerXPath xpath rule => exact belong.of_same rfl rfl
  | unregister path => exact belong.of_same rfl rfl
  | setValue handle value => exact belong.setValue handle value
  | clearHistory => exact belong.of_same rfl rfl
  | find path =>
      have recorded : (page.record (.find path.toXPath)).OffsetsBelong := belong.of_same rfl rfl
      unfold browser Page.find Action.outcome
      cases found : (page.record (.find path.toXPath)).resolve path.toXPath <;>
        simpa only [ExceptT.run, StateT.run, found] using recorded
  | findAll path => exact belong.of_same rfl rfl
  | click handle =>
      unfold browser Page.click Action.outcome
      cases found : page.element? handle <;> simp only [ExceptT.run, StateT.run, found]
      · exact belong
      · exact belong.of_same rfl rfl
  | sendKeys handle keys =>
      have recorded : (page.record (.sendKeys handle keys)).OffsetsBelong := belong.of_same rfl rfl
      apply belong.recorded
      intro after changed
      exact recorded.modify (fun element => element.receive_extent keys) changed
  | clear handle =>
      have recorded : (page.record (.clear handle)).OffsetsBelong := belong.of_same rfl rfl
      apply belong.recorded
      intro after changed
      exact recorded.modify Element.cleared_extent changed
  | readAttribute handle name => exact (onElement_keeps handle _ page).symm ▸ belong
  | rect handle => exact (onElement_keeps handle _ page).symm ▸ belong
  | isDisplayed handle => exact (onElement_keeps handle _ page).symm ▸ belong
  | scrollBy handle dx dy =>
      have recorded : (page.record (.scrollBy handle dx dy)).OffsetsBelong := belong.of_same rfl rfl
      apply belong.recorded
      intro after changed
      exact recorded.setOffset changed
  | scrollTo handle x y =>
      have recorded : (page.record (.scrollTo handle x y)).OffsetsBelong := belong.of_same rfl rfl
      apply belong.recorded
      intro after changed
      exact recorded.setOffset changed
  | scrollOffset handle => exact (onElement_keeps handle _ page).symm ▸ belong
  | setImplicitTimeout milliseconds => exact belong.of_same rfl rfl

theorem Reachable.belong {page : Page} (reachable : page.Reachable) : page.OffsetsBelong := by
  induction reachable with
  | blank =>
      intro id offset kept
      cases kept
  | change _ change ih => exact ih.change change

/-- Every element is scrolled to a place in its range, and what is no element is not scrolled. -/
structure InRange (page : Page) : Prop where
  live : ∀ handle element, page.elements.get? handle.id = some element →
    element.Admits (page.offset handle)
  dead : ∀ handle : Handle, page.elements.get? handle.id = none → page.offset handle = .zero

theorem OffsetsBelong.inRange {page : Page} (belong : page.OffsetsBelong) : page.InRange := by
  constructor
  · intro handle element live
    unfold offset
    cases kept : page.offsets.get? handle.id with
    | none => exact element.admits_zero
    | some offset =>
        obtain ⟨other, found, admits⟩ := belong handle.id offset kept
        rw [live] at found
        cases found
        exact admits
  · intro handle dead
    unfold offset
    cases kept : page.offsets.get? handle.id with
    | none => rfl
    | some offset =>
        obtain ⟨other, found, _⟩ := belong handle.id offset kept
        rw [dead] at found
        cases found

theorem Reachable.inRange {page : Page} (reachable : page.Reachable) : page.InRange :=
  reachable.belong.inRange

/-- No offset is negative. -/
theorem InRange.nonneg {page : Page} (inRange : page.InRange) (handle : Handle) :
    0 ≤ (page.offset handle).x ∧ 0 ≤ (page.offset handle).y := by
  cases found : page.elements.get? handle.id with
  | none =>
      rw [inRange.dead handle found]
      exact ⟨Int.le_refl 0, Int.le_refl 0⟩
  | some element =>
      have admits := inRange.live handle element found
      exact ⟨admits.left, admits.top⟩

end Page

end Locator
