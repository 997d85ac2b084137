import Locator.Proofs.Page.Rendered

/-!
# Clicking on a page

A path is clicked at its first match. The lookup is recorded in any case, the click once the element is known to
be there.
-/

namespace Locator.Page

set_option autoImplicit false

variable {page after : Page} {path : Path} {handle : Handle}

/-- Nothing has been clicked since. -/
def Unclicked (page after : Page) : Prop :=
  ∃ calls, after.log = calls ++ page.log ∧ ∀ call ∈ calls, call.method ≠ "click"

theorem Unclicked.refl (page : Page) : page.Unclicked page :=
  ⟨[], rfl, by simp⟩

theorem Unclicked.record (unclicked : page.Unclicked after) {call : Call} (other : call.method ≠ "click") :
    page.Unclicked (after.record call) := by
  obtain ⟨calls, log, none⟩ := unclicked
  refine ⟨call :: calls, congrArg (call :: ·) log, ?_⟩
  rw [List.forall_mem_cons]
  exact ⟨other, none⟩

theorem outcome_click {element : Element} (live : page.elements.get? handle.id = some element) :
    (browser.click handle).outcome page = (.ok (), page.record (.click handle)) := by
  have found : page.element? handle = .ok element := element?_eq_ok_iff.mpr live
  unfold browser click Action.outcome
  simp only [ExceptT.run, StateT.run, found]

theorem outcome_click_of_stale (stale : page.elements.get? handle.id = none) :
    (browser.click handle).outcome page = (.error ⟨.driver, "stale element " ++ handle.id⟩, page) := by
  unfold browser click element? Action.outcome
  simp only [ExceptT.run, StateT.run, stale]

theorem outcome_find_of_first? (first : page.first? path = some handle) :
    (browser.find path).outcome page = (.ok handle, page.record (.find path.toXPath)) := by
  obtain ⟨others, found⟩ := first?_eq_some_iff.mp first
  exact outcome_find_of_cons found

theorem outcome_locate_of_first? (first : page.first? path = some handle) :
    (browser.locate (.path path)).outcome page = (.ok handle, page.record (.find path.toXPath)) :=
  outcome_find_of_first? first

theorem outcome_clickOn {element : Element} (first : page.first? path = some handle)
    (live : page.elements.get? handle.id = some element) :
    (browser.clickOn (.path path)).outcome page =
      (.ok handle, (page.record (.find path.toXPath)).record (.click handle)) := by
  have clicked : (browser.click handle).outcome (page.record (.find path.toXPath)) = _ := outcome_click live
  unfold Browser.clickOn
  rw [Action.outcome_bind_of_ok (outcome_locate_of_first? first), Action.outcome_bind_of_ok clicked]
  rfl

/-- A click on a path that comes to nothing leaves no trace but the lookup. -/
theorem clickOn_ends (page : Page) (path : Path) :
    (∃ error, (browser.clickOn (.path path)).outcome page =
      (.error error, page.record (.find path.toXPath))) ∨
    ∃ handle, page.first? path = some handle ∧ (browser.clickOn (.path path)).outcome page =
      (.ok handle, (page.record (.find path.toXPath)).record (.click handle)) := by
  cases first : page.first? path with
  | none =>
      have missing := outcome_find_of_nil (first?_eq_none_iff.mp first)
      exact .inl ⟨_, Action.outcome_bind_of_error missing⟩
  | some handle =>
      cases live : page.elements.get? handle.id with
      | none =>
          have stale : (browser.click handle).outcome (page.record (.find path.toXPath)) = _ :=
            outcome_click_of_stale live
          refine .inl ⟨⟨.driver, "stale element " ++ handle.id⟩, ?_⟩
          unfold Browser.clickOn
          rw [Action.outcome_bind_of_ok (outcome_locate_of_first? first), Action.outcome_bind_of_error stale]
      | some element => exact .inr ⟨handle, rfl, outcome_clickOn first live⟩

end Locator.Page
