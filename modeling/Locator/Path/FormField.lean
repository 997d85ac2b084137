import Locator.Path.Html
import Locator.XPath.Lexical

/-!
# Paths for form fields

Inputs by their type, and guesses at the input that goes with a piece of text when the form has no
labels that say so.
-/

namespace Locator.FormField

open Locator.Html

set_option autoImplicit false

/-- The `type` attribute has the value. -/
def hasType (type : String) : Property :=
  Property.generator (fun value => "@type=" ++ XPath.literal value) (fun value => "has type " ++ value)
    type

/-- The nodes of `field` that are checkboxes. -/
def asCheckbox (field : Path) : Path :=
  field.and (hasType "checkbox")

/-- The nodes of `field` that are radio buttons. -/
def asRadio (field : Path) : Path :=
  field.and (hasType "radio")

/-- The checkbox inputs. -/
def checkbox : Path :=
  asCheckbox input

/-- The element holds exactly one input. -/
def hasOneInput : Property :=
  .containsOccurrences (.exactly 1 input)

/-- The input that most likely follows the text `name` in a form: one that comes after it among its
siblings, or the only one inside an element that does. -/
def inputAfter (name : String) : Path :=
  let field := (element.and (.hasAggregatedText name)).and (.not (.contains input))
  let holder := (element.afterSibling field).and hasOneInput
  ((input.inside holder).or (input.afterSibling field)).describedBy
    ("input following field " ++ quoted name)

/-- The input that most likely precedes the text `name` in a form: the last one that stands right before
it, or the only one inside an element that does. -/
def inputBefore (name : String) : Path :=
  let field := element.and (.hasAggregatedText name)
  let holder := (element.immediatelyBeforeSibling field).and hasOneInput
  ((input.inside holder).or (input.immediatelyBeforeSibling field)).last.describedBy
    ("input before field " ++ quoted name)

/-- The input that is followed at once by the bare text `content`. -/
def inputBeforeText (content : String) : Path :=
  input.immediatelyBeforeSibling (.textNode content)

end Locator.FormField
