import Locator.Interaction.Scroll
import Locator.Proofs.Geometry
import Locator.Proofs.Page.Reachable

/-!
# Pages whose numbers stay in range

Where no sum for a step or for an edge leaves the 64-bit range, however the page is scrolled, steps are as long as
they should be and boxes are where they should be.
-/

namespace Locator

set_option autoImplicit false

/-- Content of 64-bit length, in which no step in a direction leads out of the 64-bit range. -/
structure Element.Spans (element : Element) (direction : Direction) (step : Int) : Prop where
  width : element.extent.x < 0x8000000000000000
  height : element.extent.y < 0x8000000000000000
  back : -0x8000000000000000 ≤ step
  ahead : max 0 (direction.place element.extent) + step < 0x8000000000000000

/-- The extents and the box of the element are far from the ends of the 64-bit range. -/
def Element.Moderate (element : Element) : Prop :=
  ∀ number ∈ [element.extent.x, element.extent.y, element.rect.x, element.rect.y, element.rect.width,
    element.rect.height], number.natAbs ≤ 0x1000000000000000

instance (element : Element) : Decidable element.Moderate :=
  inferInstanceAs (Decidable (∀ number ∈ _, _))

section Spans

variable {element : Element} {direction : Direction} {step : Int} {offset : Offset}

theorem Element.Spans.place_lt (spans : element.Spans direction step) :
    direction.place element.extent < 0x8000000000000000 := by
  cases direction with
  | down => exact spans.height
  | right => exact spans.width

theorem Element.Admits.kept (admits : element.Admits offset) (spans : element.Spans direction step) :
    wrapped (offset.x + 0) = offset.x ∧ wrapped (offset.y + 0) = offset.y := by
  obtain ⟨left, right, top, bottom⟩ := admits
  obtain ⟨width, height, -, -⟩ := spans
  rw [Int.add_zero, Int.add_zero]
  exact ⟨(isSigned64_iff.mpr (by omega)).wrapped_eq, (isSigned64_iff.mpr (by omega)).wrapped_eq⟩

theorem Element.Admits.stepped (admits : element.Admits offset) (spans : element.Spans direction step) :
    wrapped (direction.place offset + step) = direction.place offset + step := by
  have ahead := spans.ahead
  have back := spans.back
  apply IsSigned64.wrapped_eq
  rw [isSigned64_iff]
  cases direction with
  | down =>
      have top := admits.top
      have bottom := admits.bottom
      simp only [Direction.place] at ahead ⊢
      omega
  | right =>
      have left := admits.left
      have right := admits.right
      simp only [Direction.place] at ahead ⊢
      omega

end Spans

namespace Page

/-- The same content, scrolled in some way. -/
structure Like (base page : Page) : Prop where
  elements : page.elements = base.elements
  rules : page.rules = base.rules
  inRange : page.InRange

/-- Containers are of 64-bit length. -/
def ExtentsFit (page : Page) : Prop :=
  ∀ id element, page.elements.get? id = some element →
    element.extent.x < 0x8000000000000000 ∧ element.extent.y < 0x8000000000000000

/-- How far an element is moved by the container it is placed in. -/
def shift (page : Page) (element : Element) : Offset :=
  match element.anchor with
  | none => .zero
  | some container => page.offset container

/-- However the page is scrolled, no step leads out of the 64-bit range and no edge of a box leaves it. -/
structure Sized (page : Page) (step : Int) : Prop where
  spans : ∀ id element, page.elements.get? id = some element → ∀ direction, element.Spans direction step
  boxes : ∀ scrolled : Page, scrolled.elements = page.elements → scrolled.InRange →
    ∀ id element, page.elements.get? id = some element → (element.rect.shifted (scrolled.shift element)).EdgesKept

variable {page scrolled : Page} {step : Int} {id : String} {element : Element} {container : Handle}

theorem ExtentsFit.of_entries
    (elements : ∀ entry ∈ page.elements.entries,
      entry.2.extent.x < 0x8000000000000000 ∧ entry.2.extent.y < 0x8000000000000000) : page.ExtentsFit :=
  fun _ _ found => elements _ (Keyed.mem_of_get? found)

theorem shift_of_fixed (fixed : element.anchor = none) : page.shift element = .zero := by
  rw [shift, fixed]

theorem shift_of_anchored (anchored : element.anchor = some container) :
    page.shift element = page.offset container := by
  rw [shift, anchored]

theorem Sized.of_elements {after : Page} (sized : page.Sized step) (elements : after.elements = page.elements) :
    after.Sized step := by
  constructor
  · rw [elements]
    exact sized.spans
  · rw [elements]
    exact sized.boxes

/-- Where no edge leaves the 64-bit range, a box is moved by just as much as its container is scrolled. -/
theorem rect_eq (sized : page.Sized step) (like : page.Like scrolled)
    (live : page.elements.get? id = some element) :
    scrolled.rect element = element.rect.shifted (scrolled.shift element) := by
  have kept := sized.boxes scrolled like.elements like.inRange id element live
  cases anchor : element.anchor with
  | none =>
      rw [rect, anchor, shift_of_fixed anchor]
      simp [Rect.shifted, Offset.zero]
  | some container =>
      rw [shift_of_anchored anchor] at kept ⊢
      have x : wrapped (element.rect.x - (scrolled.offset container).x) = _ := kept.left.wrapped_eq
      have y : wrapped (element.rect.y - (scrolled.offset container).y) = _ := kept.top.wrapped_eq
      rw [rect, anchor]
      simp only [x, y]
      rfl

theorem rect_kept (sized : page.Sized step) (like : page.Like scrolled)
    (live : page.elements.get? id = some element) : (scrolled.rect element).EdgesKept :=
  rect_eq sized like live ▸ sized.boxes scrolled like.elements like.inRange id element live

/-- The page with nothing scrolled. -/
def unscrolled (page : Page) : Page :=
  { page with offsets := .empty }

theorem unscrolled_inRange (page : Page) : page.unscrolled.InRange :=
  ⟨fun _ element _ => element.admits_zero, fun _ _ => rfl⟩

/-- A box that is not placed in a container has its edges where they should be. -/
theorem Sized.fixed_kept (sized : page.Sized step) (live : page.elements.get? id = some element)
    (fixed : element.anchor = none) : element.rect.EdgesKept := by
  have kept := sized.boxes page.unscrolled rfl page.unscrolled_inRange id element live
  rw [shift_of_fixed fixed] at kept
  simpa [Rect.shifted, Offset.zero] using kept

/-- A page of moderate numbers, for a moderate step. -/
theorem Sized.of_entries (short : step.natAbs ≤ 0x1000000000000000)
    (moderate : ∀ entry ∈ page.elements.entries, entry.2.Moderate) : page.Sized step := by
  have bounds {id : String} {element : Element} (live : page.elements.get? id = some element) :
      element.Moderate := moderate _ (Keyed.mem_of_get? live)
  constructor
  · intro id element live direction
    have bounds := bounds live
    simp only [Element.Moderate, List.forall_mem_cons] at bounds
    constructor
    case width => omega
    case height => omega
    case back => omega
    case ahead => cases direction <;> simp only [Direction.place] <;> omega
  · intro scrolled elements inRange id element live
    have moved : 0 ≤ (scrolled.shift element).x ∧ (scrolled.shift element).x ≤ 0x1000000000000000 ∧
        0 ≤ (scrolled.shift element).y ∧ (scrolled.shift element).y ≤ 0x1000000000000000 := by
      cases anchor : element.anchor with
      | none =>
          rw [shift_of_fixed anchor]
          decide
      | some container =>
          rw [shift_of_anchored anchor]
          cases found : scrolled.elements.get? container.id with
          | none =>
              rw [inRange.dead container found]
              decide
          | some live =>
              obtain ⟨left, right, top, bottom⟩ := inRange.live container live found
              have bounds := bounds (elements ▸ found)
              simp only [Element.Moderate, List.forall_mem_cons] at bounds
              omega
    have bounds := bounds live
    simp only [Element.Moderate, List.forall_mem_cons] at bounds
    constructor <;> simp only [Rect.shifted, isSigned64_iff] <;> omega

end Page

end Locator
