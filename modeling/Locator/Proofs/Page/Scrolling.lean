import Locator.Proofs.Page.Search

/-!
# Scrolling moves one container within its range

A call that scrolls puts both axes of its container back into the range of its content. On a page that can
come about they are in that range already, so an axis that is not asked to move stays where it is, and nothing
but the container moves.
-/

namespace Locator

set_option autoImplicit false

theorem Direction.place_clampOffset (direction : Direction) (element : Element) (offset : Offset) :
    direction.place (element.clampOffset offset) =
      Element.clamp (direction.place element.extent) (direction.place offset) := by
  cases direction <;> rfl

namespace Page

variable {page : Page} {handle : Handle}

/-- Where a container gets to that is asked to go to an offset. What is not on the page stays. -/
def reached (page : Page) (handle : Handle) (asked : Offset) : Offset :=
  match page.elements.get? handle.id with
  | none => page.offset handle
  | some element => element.clampOffset asked

theorem setOffset_stale {offset : Offset} (missing : page.elements.get? handle.id = none) :
    page.setOffset handle offset = .error ⟨.driver, "stale element " ++ handle.id⟩ := by
  unfold setOffset element?
  rw [missing]

theorem setOffset_live {offset : Offset} {element : Element} (live : page.elements.get? handle.id = some element) :
    page.setOffset handle offset = .ok (page.moved handle (element.clampOffset offset)) := by
  unfold setOffset
  rw [element?_eq_ok_iff.mpr live]
  rfl

theorem offset_after_recorded {call : Call} {change : Page → Except Error Page} {asked : Offset}
    (asks : change (page.record call) = (page.record call).setOffset handle asked) (other : Handle) :
    ((recorded call change).outcome page).2.offset other =
      if other = handle then page.reached handle asked else page.offset other := by
  unfold recorded Action.outcome reached
  cases live : page.elements.get? handle.id with
  | none =>
      have stale : change (page.record call) = _ := asks.trans (setOffset_stale live)
      simp only [ExceptT.run, StateT.run, stale]
      split
      case isTrue own => rw [own]; rfl
      case isFalse => rfl
  | some element =>
      have moves : change (page.record call) = _ := asks.trans (setOffset_live live)
      simp only [ExceptT.run, StateT.run, moves]
      exact offset_moved (page.record call) handle other _

theorem offset_after_scrollTo (page : Page) (handle : Handle) (x y : Option Int) (other : Handle) :
    ((browser.scrollTo handle x y).outcome page).2.offset other =
      if other = handle then page.reached handle (placed (page.offset handle) x y) else page.offset other :=
  offset_after_recorded rfl other

theorem offset_after_scrollBy (page : Page) (handle : Handle) (dx dy : Int) (other : Handle) :
    ((browser.scrollBy handle dx dy).outcome page).2.offset other =
      if other = handle then
        page.reached handle ⟨wrapped ((page.offset handle).x + dx), wrapped ((page.offset handle).y + dy)⟩
      else page.offset other :=
  offset_after_recorded rfl other

/-- An axis that is asked to stay stays: it is in its range, so moving it into the range changes nothing. -/
theorem InRange.stays (inRange : page.InRange) (direction : Direction) {asked : Offset}
    (same : direction.place asked = direction.place (page.offset handle)) :
    direction.place (page.reached handle asked) = direction.place (page.offset handle) := by
  unfold reached
  cases live : page.elements.get? handle.id with
  | none => rfl
  | some element =>
      obtain ⟨nonneg, inside⟩ := (inRange.live handle element live).place direction
      show direction.place (element.clampOffset asked) = _
      rw [direction.place_clampOffset, same]
      unfold Element.clamp
      omega

/-- An axis that is asked to go forward does not go back. -/
theorem InRange.advances (inRange : page.InRange) (direction : Direction) {asked : Offset}
    (ahead : direction.place (page.offset handle) ≤ direction.place asked) :
    direction.place (page.offset handle) ≤ direction.place (page.reached handle asked) := by
  unfold reached
  cases live : page.elements.get? handle.id with
  | none => exact Int.le_refl _
  | some element =>
      obtain ⟨nonneg, inside⟩ := (inRange.live handle element live).place direction
      show _ ≤ direction.place (element.clampOffset asked)
      rw [direction.place_clampOffset]
      unfold Element.clamp
      omega

/-- An offset in a container of 64-bit length is a number of 64 bits. -/
theorem InRange.place_lt (inRange : page.InRange) (fits : page.ExtentsFit) (direction : Direction) (handle : Handle) :
    direction.place (page.offset handle) < 0x8000000000000000 := by
  cases live : page.elements.get? handle.id with
  | none =>
      rw [inRange.dead handle live]
      cases direction <;> decide
  | some element =>
      obtain ⟨_, inside⟩ := (inRange.live handle element live).place direction
      obtain ⟨width, height⟩ := fits _ _ live
      cases direction <;> simp only [Direction.place] at inside ⊢ <;> omega

/-- Forward within the 64-bit range, the sum of an offset and a distance is kept as it is. -/
theorem InRange.wrapped_ahead (inRange : page.InRange) (direction : Direction) {distance : Int}
    (forward : 0 ≤ distance) (within : direction.place (page.offset handle) + distance < 0x8000000000000000) :
    wrapped (direction.place (page.offset handle) + distance) = direction.place (page.offset handle) + distance := by
  have nonneg : 0 ≤ direction.place (page.offset handle) := by
    cases direction with
    | down => exact (inRange.nonneg handle).2
    | right => exact (inRange.nonneg handle).1
  exact (isSigned64_iff.mpr (by omega)).wrapped_eq

/-- A list whose content is narrower than the list, scrolled past its end, with an item on its content. -/
def narrowPage : Page :=
  let empty : Page := {}
  let page := empty.add ⟨"list"⟩ { extent := ⟨-5, 300⟩ }
  let page := page.add ⟨"item"⟩ { rect := ⟨10, 400, 100, 20⟩, anchor := some ⟨"list"⟩ }
  ((browser.scrollBy ⟨"list"⟩ 7 1000).outcome page).2

theorem narrowPage_reachable : narrowPage.Reachable :=
  .change (.change (.change .blank (.add _ _ rfl)) (.add _ _ (by decide))) (.scrollBy _ _ _)

/-- A list of 10 pixels that has been scrolled by half of them, with an item on its content as far to the left as a
box can be. -/
def halfwayPage : Page :=
  let empty : Page := {}
  let page := empty.add ⟨"list"⟩ { extent := ⟨10, 0⟩ }
  let page := page.add ⟨"item"⟩ { rect := ⟨-0x8000000000000000, 0, 1, 1⟩, anchor := some ⟨"list"⟩ }
  ((browser.scrollBy ⟨"list"⟩ 5 0).outcome page).2

end Page

end Locator
