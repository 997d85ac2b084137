import Locator.Interaction.Scroll
import Locator.Path.FormField
import Locator.Text.Blank

/-!
# Labelled inputs and choices

Finding the input that goes with a label, and picking options in select elements and in dropdowns that
have to be scrolled.
-/

namespace Locator.Browser

open Locator.Html

set_option autoImplicit false

variable {State : Type}

/-- The input of the label with the given text: the one the label refers to by id, else one inside the
label. -/
def inputForLabel (browser : Browser State) (text : String) : Action State Path := do
  let labelled := label.and (.hasAggregatedText (Text.trim text))
  let element ← browser.find labelled
  let reference ← browser.attribute? element "for"
  match reference.filter (!·.isEmpty) with
  | some id => return input.and (.hasId id)
  | none => return input.inside labelled

/-- Picks an option by its text in the select element that follows a label, and returns the path of the
select element. -/
def selectInLabelled (browser : Browser State) (text choice : String) : Action State Path := do
  let selector := select.after (label.and (.hasText text))
  let _ ← browser.clickOn (.path selector)
  let _ ← browser.clickOn (.path ((option.and (.hasAggregatedText choice)).inside selector))
  return selector

/-- The element is displayed and ends no lower than the list does. Both boxes are read anew. -/
def liesInList (browser : Browser State) (list candidate : Handle) : Action State Bool := do
  let bottom := (← browser.rect list).bottom
  if ← browser.isDisplayed candidate then
    return decide ((← browser.rect candidate).bottom ≤ bottom)
  else return false

/-- Scrolls a dropdown from its top until an option lies in the list, then clicks the option. The
container that scrolls is the parent of the content. -/
def selectInDropdown (browser : Browser State) (content choice : Path)
    (settings : DropdownSettings) : Action State Unit := do
  let scroller ← Scroller.ofTarget browser (.path (parentOf content))
  let scroller := scroller.withStep settings.step
  scroller.toTopEdge browser
  let _ ← browser.withLoweredTimeout settings.lookupTimeout
    (scroller.untilAccepted browser .down choice (browser.liesInList scroller.container))
  let _ ← browser.clickOn (.path choice)

end Locator.Browser
