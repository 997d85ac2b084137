import Locator.Proofs.Interaction.Emptying

/-!
# Changing a value on a page

However the value of an input that can be edited is changed, what is left is the new text, after nothing of the old
value or after what the quick way does not reach.
-/

namespace Locator

set_option autoImplicit false

/-- What a way to change a value keeps of the old one. -/
def ChangeMethod.kept (old : String) : ChangeMethod → String
  | .quick => withoutLast ({} : ClearSettings).quickLength old
  | .strict | .strictOnce | .lenient => ""

theorem ChangeMethod.kept_of_ne_quick {method : ChangeMethod} (thorough : method ≠ .quick) (old : String) :
    method.kept old = "" := by
  cases method with
  | quick => exact absurd rfl thorough
  | strict | strictOnce | lenient => rfl

namespace Page

variable {start : Page} {handle : Handle} {element : Element} {typed : Nat}

section Field

variable {field : Target} (found : start.located field = .ok handle) (editable : element.keys = .editable)

include found

theorem ends_clearInput_of_empty (empty : element.value = "") (mode : ClearMode) (settings : ClearSettings) :
    Action.Ends (start.Holds handle element typed) (browser.clearInput field mode settings) (.ok ())
      (start.Holds handle element typed) := by
  have blank : element.value.isEmpty = true := by simpa using empty
  apply (ends_valueOf found).bind
  simp only [blank]
  exact .pure

include editable

/-- An input that can be edited is emptied, whatever was in it and whether it can be cleared or not. -/
theorem ends_clearInput_emptied (typed : Nat) (mode : ClearMode) (settings : ClearSettings) :
    ∃ more, Action.Ends (start.Holds handle element typed) (browser.clearInput field mode settings) (.ok ())
      (start.Holds handle { element with value := "" } more) := by
  by_cases empty : element.value = ""
  · have same : { element with value := "" } = element := by
      rw [← empty]
    rw [same]
    exact ⟨typed, ends_clearInput_of_empty found empty mode settings⟩
  · by_cases clears : element.clears = true
    · exact ⟨typed, ends_clearInput_of_clears found empty clears mode settings⟩
    · have ignores : element.clears = false := Bool.eq_false_iff.mpr clears
      exact ⟨typed + 1, ends_clearInput_of_editable found empty ignores editable mode settings⟩

theorem ends_typed {old keys new : String} (types : typeKeys old keys = new) (typed : Nat) :
    Action.Ends (start.Holds handle { element with value := old } typed) (browser.sendKeysTo keys field) (.ok handle)
      (start.Holds handle { element with value := new } (typed + 1)) := by
  have still : { element with value := old }.keys = .editable := editable
  subst types
  exact ends_sendKeysTo found (Element.receive_of_editable still keys)

/-- Plain text that is typed comes after what has been left of the value. -/
theorem ends_then_typed {prepare : Action Page Unit} {left text : String} {more : Nat} (plain : IsPlain text)
    (prepares : Action.Ends (start.Holds handle element typed) prepare (.ok ())
      (start.Holds handle { element with value := left } more)) :
    Action.Ends (start.Holds handle element typed)
      (prepare >>= fun _ => browser.sendKeysTo text field >>= fun _ => pure ()) (.ok ())
      (start.Holds handle { element with value := left ++ text } (more + 1)) := by
  apply prepares.bind
  apply (ends_typed found editable (typeKeys_plain left plain) more).bind
  exact .pure

end Field

section Path

variable {path : Path} {text : String} (found : start.located (.path path) = .ok handle)
  (editable : element.keys = .editable) (plain : IsPlain text)

include found editable plain

theorem ends_changeValue (typed : Nat) (method : ChangeMethod) :
    ∃ more, Action.Ends (start.Holds handle element typed) (browser.changeValue method path text) (.ok ())
      (start.Holds handle { element with value := method.kept element.value ++ text } more) := by
  have clicked : Action.Ends (start.Holds handle element typed) (browser.clickOn (.path path)) (.ok handle)
      (start.Holds handle element typed) := ends_clickOn found
  -- The element that was clicked is still the one that the path finds, so it is the same which of them is used.
  have changed (field : Target) (same : start.located field = .ok handle) (mode : ClearMode) :
      ∃ more, Action.Ends (start.Holds handle element typed)
        (browser.clearInput field mode {} >>= fun _ => browser.sendKeysTo text field >>= fun _ => pure ()) (.ok ())
        (start.Holds handle { element with value := "" ++ text } more) := by
    obtain ⟨more, emptied⟩ := ends_clearInput_emptied same editable typed mode {}
    exact ⟨more + 1, ends_then_typed same editable plain emptied⟩
  cases method with
  | strict =>
      obtain ⟨more, ends⟩ := changed (.path path) found .strict
      exact ⟨more, clicked.bind ends⟩
  | strictOnce =>
      obtain ⟨more, ends⟩ := changed (.handle handle) rfl .strict
      exact ⟨more, clicked.bind ends⟩
  | lenient =>
      obtain ⟨more, ends⟩ := changed (.path path) found .lenient
      exact ⟨more, clicked.bind ends⟩
  | quick =>
      have deletes := typeKeys_deletionKeys element.value ({} : ClearSettings).quickLength
      have deleted := ends_typed found editable deletes typed
      exact ⟨typed + 2, clicked.bind (ends_then_typed found editable plain (deleted.bind .pure))⟩

theorem ends_changeValueAndEnter (typed : Nat) (method : ChangeMethod) :
    ∃ more, Action.Ends (start.Holds handle element typed) (browser.changeValueAndEnter method path text) (.ok ())
      (start.Holds handle { element with value := method.kept element.value ++ text } more) := by
  obtain ⟨more, changed⟩ := ends_changeValue found editable plain typed method
  refine ⟨more + 1, changed.bind ?_⟩
  apply (ends_typed found editable (typeKeys_enter _) more).bind
  exact .pure

end Path

/-- The action succeeds and leaves this value in the input. But for the log, nothing else has changed. -/
def Leaves (start : Page) (handle : Handle) (element : Element) (value : String) (action : Action Page Unit) :
    Prop :=
  ∃ typed after, action.outcome start = (.ok (), after) ∧ start.Holds handle { element with value } typed after

theorem Leaves.of_ends {value : String} {action : Action Page Unit}
    (live : start.elements.get? handle.id = some element)
    (ends : ∃ more, Action.Ends (start.Holds handle element 0) action (.ok ())
      (start.Holds handle { element with value } more)) : start.Leaves handle element value action := by
  obtain ⟨typed, ends⟩ := ends
  obtain ⟨after, outcome, holds⟩ := ends start (.start live)
  exact ⟨typed, after, outcome, holds⟩

/-- Changing the value of an input that a path finds and that can be edited, whatever is in it and whether it can be
cleared or not, leaves the text and nothing else, if the text is one that is typed as it stands. Only the quick ways
leave what they have not deleted of the old value. Pressing enter then changes nothing. -/
theorem changeValue_leaves_text {path : Path} {text : String} (found : start.located (.path path) = .ok handle)
    (live : start.elements.get? handle.id = some element) (editable : element.keys = .editable)
    (plain : IsPlain text) :
    (∀ method, method ≠ .quick →
      start.Leaves handle element text (browser.changeValue method path text) ∧
      start.Leaves handle element text (browser.changeValueAndEnter method path text)) ∧
    start.Leaves handle element (withoutLast ({} : ClearSettings).quickLength element.value ++ text)
      (browser.changeValue .quick path text) ∧
    start.Leaves handle element (withoutLast ({} : ClearSettings).quickLength element.value ++ text)
      (browser.changeValueAndEnter .quick path text) := by
  have leaves (method : ChangeMethod) :
      start.Leaves handle element (method.kept element.value ++ text) (browser.changeValue method path text) ∧
      start.Leaves handle element (method.kept element.value ++ text) (browser.changeValueAndEnter method path text) :=
    ⟨.of_ends live (ends_changeValue found editable plain 0 method),
      .of_ends live (ends_changeValueAndEnter found editable plain 0 method)⟩
  refine ⟨fun method thorough => ?_, leaves .quick⟩
  have left := leaves method
  rw [method.kept_of_ne_quick thorough, String.empty_append] at left
  exact left

/-- An input that can be edited but not cleared. -/
def comment : Element :=
  { tag := "input", value := "déjà vu", clears := false }

theorem changeValue_leaves_text_comment :
    (oneInput comment).Leaves ⟨"input"⟩ comment "new" (browser.changeValueAndEnter .lenient Html.input "new") ∧
    (oneInput comment).Leaves ⟨"input"⟩ comment "new" (browser.changeValue .quick Html.input "new") := by
  have plain : IsPlain "new" := by decide
  obtain ⟨thorough, quick, _⟩ := changeValue_leaves_text (located_oneInput comment) rfl rfl plain
  exact ⟨(thorough .lenient nofun).2, quick⟩

end Page

end Locator
