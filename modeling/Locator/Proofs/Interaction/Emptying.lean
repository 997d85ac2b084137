import Locator.Proofs.Interaction.ClearingEffort
import Locator.Proofs.Page.Typing

/-!
# Emptying an input of a page

How clearing ends on a page, and how often it types there, is settled by how the input reacts: whether it can be
cleared, and if not, whether it can be edited or is frozen.
-/

namespace Locator.Page

set_option autoImplicit false

variable {start : Page} {field : Target} {handle : Handle} {element : Element} {typed : Nat}

/-- How clearing ends when something is left. -/
def refusal : ClearMode → Except Error Unit
  | .strict => .error clearFailed
  | .lenient => .ok ()

/-- How many attempts type when nothing changes the value: strict clearing gives up in the last one. -/
def rounds (tries : Nat) : ClearMode → Nat
  | .strict => tries - 1
  | .lenient => tries

section Found

variable (found : start.located field = .ok handle)

include found

theorem ends_repeatKey (frozen : element.keys = .frozen) (key : Char) (count : Nat) :
    Action.Ends (start.Holds handle element typed) (browser.repeatKey field key count) (.ok ())
      (start.Holds handle element (typed + count)) := by
  induction count generalizing typed with
  | zero => exact .pure
  | succ count ih =>
      unfold Browser.repeatKey
      apply (ends_sendKeysTo found (element.receive_of_frozen frozen _)).bind
      rw [← Nat.add_assoc, Nat.add_right_comm]
      exact ih

theorem ends_valueLength :
    Action.Ends (start.Holds handle element typed) (browser.valueLength field) (.ok element.value.toList.length)
      (start.Holds handle element typed) :=
  (ends_valueOf found).bind .pure

/-- The value was read as it is before, if it was read before. -/
theorem ends_clearByKey (frozen : element.keys = .frozen) (present : element.value ≠ "") (mode : ClearMode)
    (tries : Nat) (previous : Option Nat)
    (steady : ∀ length ∈ previous, length = element.value.toList.length) :
    Action.Ends (start.Holds handle element typed) (browser.clearByKey field mode tries previous) (refusal mode)
      (start.Holds handle element (typed + 2 * element.value.toList.length * rounds tries mode)) := by
  induction tries generalizing typed previous with
  | zero =>
      cases mode with
      | lenient => exact .pure
      | strict =>
          have left : element.value.isEmpty = false := by simpa using present
          apply (ends_valueOf found).bind
          rw [left]
          exact .throw
  | succ tries ih =>
      have left : element.value.toList.length ≠ 0 := by simpa using present
      have grown : previous.any (· < element.value.toList.length) = false := by
        cases previous with
        | none => rfl
        | some length => simp [steady length rfl]
      unfold Browser.clearByKey
      apply (ends_valueLength found).bind
      simp only [if_neg left, grown, Bool.false_eq_true, false_or]
      split
      case isTrue gives =>
        obtain ⟨rfl, rfl⟩ := gives
        exact .throw
      case isFalse goes =>
        have further : rounds (tries + 1) mode = rounds tries mode + 1 := by
          cases mode with
          | lenient => rfl
          | strict =>
              have more : tries ≠ 0 := fun none => goes ⟨rfl, none⟩
              simp only [rounds]
              omega
        have total : typed + 2 * element.value.toList.length * rounds (tries + 1) mode =
            typed + element.value.toList.length + element.value.toList.length +
              2 * element.value.toList.length * rounds tries mode := by
          rw [further, Nat.mul_succ]
          omega
        rw [total]
        apply (ends_repeatKey found frozen Key.backspace _).bind
        apply (ends_repeatKey found frozen Key.delete _).bind
        apply ih
        rintro _ ⟨⟩
        rfl

/-- An input that can be cleared has nothing typed into it. -/
theorem ends_clearAtOnce_of_clears (present : element.value ≠ "") (clears : element.clears = true) :
    Action.Ends (start.Holds handle element typed) (browser.clearAtOnce field) (.ok false)
      (start.Holds handle { element with value := "" } typed) := by
  have filled : element.value.isEmpty = false := by simpa using present
  apply (ends_valueOf found).bind
  simp only [filled]
  apply (ends_locate found).bind
  apply ends_clear.bind
  rw [element.cleared_of_clears clears]
  apply (ends_valueOf found).bind
  exact .pure

theorem ends_clearAtOnce_of_ignores {received : Element} (present : element.value ≠ "")
    (ignores : element.clears = false)
    (receives : element.receive (deletionKeys element.value.toList.length) = received) :
    Action.Ends (start.Holds handle element typed) (browser.clearAtOnce field) (.ok !received.value.isEmpty)
      (start.Holds handle received (typed + 1)) := by
  have filled : element.value.isEmpty = false := by simpa using present
  apply (ends_valueOf found).bind
  simp only [filled]
  apply (ends_locate found).bind
  apply ends_clear.bind
  rw [element.cleared_of_not_clears ignores]
  apply (ends_valueOf found).bind
  simp only [filled]
  apply (ends_sendKeysTo found receives).bind
  apply (ends_valueOf found).bind
  exact .pure

theorem ends_clearInput_of_clears (present : element.value ≠ "") (clears : element.clears = true)
    (mode : ClearMode) (settings : ClearSettings) :
    Action.Ends (start.Holds handle element typed) (browser.clearInput field mode settings) (.ok ())
      (start.Holds handle { element with value := "" } typed) := by
  rw [clearInput_eq]
  exact (ends_clearAtOnce_of_clears found present clears).bind .pure

theorem ends_clearInput_of_editable (present : element.value ≠ "") (ignores : element.clears = false)
    (editable : element.keys = .editable) (mode : ClearMode) (settings : ClearSettings) :
    Action.Ends (start.Holds handle element typed) (browser.clearInput field mode settings) (.ok ())
      (start.Holds handle { element with value := "" } (typed + 1)) := by
  have receives := element.receive_of_editable editable (deletionKeys element.value.toList.length)
  rw [typeKeys_deletionKeys_self] at receives
  rw [clearInput_eq]
  exact (ends_clearAtOnce_of_ignores found present ignores receives).bind .pure

theorem ends_clearInput_of_frozen (present : element.value ≠ "") (ignores : element.clears = false)
    (frozen : element.keys = .frozen) (mode : ClearMode) (settings : ClearSettings) :
    Action.Ends (start.Holds handle element typed) (browser.clearInput field mode settings) (refusal mode)
      (start.Holds handle element
        (typed + 1 + 2 * element.value.toList.length * rounds (mode.tries settings) mode)) := by
  have left : (!element.value.isEmpty) = true := by simpa using present
  rw [clearInput_eq]
  apply (ends_clearAtOnce_of_ignores found present ignores (element.receive_of_frozen frozen _)).bind
  rw [left]
  exact ends_clearByKey found frozen present mode _ none nofun

end Found

/-- Clearing an input that is not empty, by path or by handle. One that can be cleared is empty then and nothing
has been typed; one that is edited by keys is empty after typing once. One that is frozen keeps its value, and
every attempt types each of the deletion keys by itself; strict clearing fails. Nothing else on the page has
changed. -/
theorem clearInput_settled_by_element (found : start.located field = .ok handle)
    (live : start.elements.get? handle.id = some element) (present : element.value ≠ "") (mode : ClearMode)
    (settings : ClearSettings) :
    ∃ ended after, (browser.clearInput field mode settings).outcome start = (ended, after) ∧
      (element.clears = true → ended = .ok () ∧ start.Holds handle { element with value := "" } 0 after) ∧
      (element.clears = false → element.keys = .editable →
        ended = .ok () ∧ start.Holds handle { element with value := "" } 1 after) ∧
      (element.clears = false → element.keys = .frozen →
        (mode = .lenient → ended = .ok () ∧
          start.Holds handle element (1 + 2 * element.value.toList.length * settings.lenientTries) after) ∧
        (mode = .strict → ended = .error clearFailed ∧
          start.Holds handle element (1 + 2 * element.value.toList.length * (settings.strictTries - 1)) after)) := by
  have begins := Holds.start live
  cases outcome : (browser.clearInput field mode settings).outcome start with
  | mk ended after =>
      refine ⟨ended, after, rfl, fun clears => ?_, fun ignores editable => ?_, fun ignores frozen => ?_⟩
      · exact (ends_clearInput_of_clears found present clears mode settings).of_outcome begins outcome
      · exact (ends_clearInput_of_editable found present ignores editable mode settings).of_outcome begins outcome
      · have stays :=
          (ends_clearInput_of_frozen found present ignores frozen mode settings).of_outcome begins outcome
        rw [Nat.zero_add] at stays
        constructor
        · rintro rfl
          exact stays
        · rintro rfl
          exact stays

/-- An input that takes no notice of anything, with two characters of more than one byte. -/
def autocomplete : Element :=
  { tag := "input", value := "é😀", keys := .frozen, clears := false }

theorem clearInput_settled_by_element_autocomplete :
    ∃ after, (browser.clearInput (.path Html.input) .strict {}).outcome (oneInput autocomplete) =
        (.error clearFailed, after) ∧
      (oneInput autocomplete).Holds ⟨"input"⟩ autocomplete (1 + 2 * 2 * 19) after := by
  obtain ⟨_, after, outcome, _, _, frozen⟩ :=
    clearInput_settled_by_element (located_oneInput autocomplete) rfl (by decide) .strict {}
  obtain ⟨rfl, holds⟩ := (frozen rfl rfl).2 rfl
  exact ⟨after, outcome, holds⟩

end Locator.Page
