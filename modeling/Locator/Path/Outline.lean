import Locator.Data.Value
import Locator.Path.Description

/-!
# The structure of paths as data

The outline of a path shows how it was put together: nested lists, each opening with the name of what it
stands for. Two paths are equal exactly when their node kinds, constraints and overrides are; an outline
leaves out only how many constraints an override covers.
-/

namespace Locator

open Locator.Data

set_option autoImplicit false

/-- A list that opens with a name. -/
def titled (name : String) (parts : List Value) : Value :=
  .list (.text name :: parts)

/-- A text, if there is one. -/
def optionalText : Option String → Value
  | none => .null
  | some content => .text content

/-- The name of a relation. -/
def Relation.name : Relation → String
  | .inside => "Inside"
  | .containing => "Containing"
  | .parentOf => "ParentOf"
  | .childOf => "ChildOf"
  | .after => "After"
  | .afterSibling => "AfterSibling"
  | .before => "Before"
  | .beforeSibling => "BeforeSibling"
  | .immediatelyBefore => "ImmediatelyBefore"
  | .immediatelyBeforeSibling => "ImmediatelyBeforeSibling"
  | .immediatelyAfter => "ImmediatelyAfter"
  | .immediatelyAfterSibling => "ImmediatelyAfterSibling"

/-- Every relation. -/
def Relation.all : List Relation :=
  [.inside, .containing, .parentOf, .childOf, .after, .afterSibling, .before, .beforeSibling,
    .immediatelyBefore, .immediatelyBeforeSibling, .immediatelyAfter, .immediatelyAfterSibling]

theorem Relation.mem_all (relation : Relation) : relation ∈ all := by
  cases relation <;> decide

/-- The name of the text looked at. -/
def TextScope.name : TextScope → String
  | .own => "Own"
  | .aggregated => "Aggregated"

/-- The name of a text comparison. -/
def TextMatch.name : TextMatch → String
  | .equals => "Equals"
  | .contains => "Contains"
  | .startsWith => "StartsWith"
  | .endsWith => "EndsWith"
  | .pattern => "Pattern"

/-- A place among siblings as data. -/
def SiblingPlace.outline : SiblingPlace → Value
  | .nth index => .ofNat index
  | .last => .text "last"
  | .only => .text "only"

/-- A position as data. -/
def Position.outline : Position → Value
  | .nth index => .ofNat index
  | .last => .text "last"

/-- The structure of a test. -/
def Test.outline : Test → Value
  | .hasAttribute name => titled "HasAttribute" [.text name]
  | .attributeEquals name value => titled "AttributeEquals" [.text name, .text value]
  | .attributeHasWord name word => titled "AttributeContainsWord" [.text name, .text word]
  | .attributeContains name value => titled "AttributeContains" [.text name, .text value]
  | .hasId id => titled "HasId" [.text id]
  | .hasClass name => titled "HasClass" [.text name]
  | .hasAnyClass names => titled "HasAnyClass" [.list (names.map .text)]
  | .hasAllClasses names => titled "HasClasses" [.list (names.map .text)]
  | .classContains fragment => titled "ClassContains" [.text fragment]
  | .text scope comparison value =>
      titled "Text" [.text scope.name, .text comparison.name, .text value]
  | .sibling place => titled "Sibling" [place.outline]
  | .childCount count => titled "ChildCount" [.ofNat count]
  | .hasChildren => titled "HasChildren" []
  | .noChildren => titled "NoChildren" []
  | .state wanted => titled "State" [.text wanted.word]

mutual

/-- The structure of a path: its node kind, its constraints, and the text of its override. -/
def Path.outline : Path → Value
  | ⟨node, constraints, override⟩ =>
      .list
        [node.outline, .list (outlines constraints), optionalText (override.map Override.text)]

/-- The structure of a node kind. -/
def Node.outline : Node → Value
  | .element name => titled "Element" [.text name]
  | .any => titled "Any" []
  | .text content => titled "Text" [.text content]
  | .union left right => titled "Union" [left.outline, right.outline]
  | .occurrence path position => titled "Occurrence" [path.outline, position.outline]

/-- The structure of each constraint. -/
def outlines : List Constraint → List Value
  | [] => []
  | .property property :: others => property.outline :: outlines others
  | .relation relation target :: others =>
      titled "Relation" [.text relation.name, target.outline] :: outlines others

/-- The structure of a property. -/
def Property.outline : Property → Value
  | .test test => test.outline
  | .related relation target => titled "Related" [.text relation.name, target.outline]
  | .siblingOf target => titled "SiblingOf" [target.outline]
  | .occurrences comparison count target =>
      titled "Occurrences" [.text comparison.phrase, .ofNat count, target.outline]
  | .custom fragment phrase => titled "Custom" [.text fragment, .text phrase]
  | .and left right => titled "And" [left.outline, right.outline]
  | .or left right => titled "Or" [left.outline, right.outline]
  | .not inner => titled "Not" [inner.outline]

end

end Locator
