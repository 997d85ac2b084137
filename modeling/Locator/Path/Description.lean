import Locator.Path.Basic
import Locator.Text.Pieces

/-!
# Paths in words

A description names the node kind and then every constraint in order. An override replaces the words for
the node kind and for the constraints it covers; constraints added later are still described.
-/

namespace Locator

open Locator.Text

set_option autoImplicit false

/-- The text between double quotes, as it is. -/
def quoted (text : String) : String :=
  "\"" ++ text ++ "\""

namespace Relation

/-- The words for a relation that was added to a path. -/
def phrase : Relation → String
  | .inside => "inside"
  | .containing => "containing"
  | .parentOf => "parent of"
  | .childOf => "child of"
  | .after => "after"
  | .afterSibling => "after sibling"
  | .before => "before"
  | .beforeSibling => "before sibling"
  | .immediatelyBefore => "immediately before"
  | .immediatelyBeforeSibling => "immediately before sibling"
  | .immediatelyAfter => "immediately after"
  | .immediatelyAfterSibling => "immediately after sibling"

/-- The words for a relation that is used as a property. -/
def propertyPhrase : Relation → String
  | .inside => "has ancestor:"
  | .containing => "has descendant:"
  | .parentOf => "has child:"
  | .childOf => "has parent:"
  | .after => "is after:"
  | .afterSibling => "is after sibling:"
  | .before => "is before:"
  | .beforeSibling => "is before sibling:"
  | .immediatelyBefore => "is immediately before:"
  | .immediatelyBeforeSibling => "is immediately before sibling:"
  | .immediatelyAfter => "is immediately after:"
  | .immediatelyAfterSibling => "is immediately after sibling:"

end Relation

/-- The words for a comparison of counts. -/
def Comparison.phrase : Comparison → String
  | .exactly => "exactly"
  | .atLeast => "at least"
  | .atMost => "at most"

/-- The words between the text looked at and the value. -/
def TextMatch.phrase : TextMatch → String
  | .equals => ""
  | .contains => " containing"
  | .startsWith => " starting with"
  | .endsWith => " ending with"
  | .pattern => " matching"

/-- The words for the text looked at. -/
def TextScope.phrase : TextScope → String
  | .own => "text"
  | .aggregated => "aggregated text"

/-- The word for an element state. -/
def ElementState.word : ElementState → String
  | .checked => "checked"
  | .selected => "selected"
  | .disabled => "disabled"
  | .enabled => "enabled"

/-- The words for a test. -/
def Test.describe : Test → String
  | .hasAttribute name => "has attribute " ++ name
  | .attributeEquals name value => "has " ++ name ++ ": " ++ quoted value
  | .attributeHasWord name word => "has " ++ name ++ " with word " ++ quoted word
  | .attributeContains name value => "has " ++ name ++ " containing " ++ quoted value
  | .hasId id => "has id " ++ quoted id
  | .hasClass name => "has class " ++ name
  | .hasAnyClass names => "has at least one of the classes [" ++ join ", " names ++ "]"
  | .hasAllClasses names => "has classes [" ++ join ", " names ++ "]"
  | .classContains fragment => "has class containing " ++ quoted fragment
  | .text scope comparison value =>
      "has " ++ scope.phrase ++ comparison.phrase ++ " " ++ quoted value
  | .sibling (.nth index) => "is in place " ++ toString index ++ " among its siblings"
  | .sibling .last => "is the last sibling"
  | .sibling .only => "is the only child"
  | .childCount count => "has " ++ toString count ++ " children"
  | .hasChildren => "has some children"
  | .noChildren => "has no children"
  | .state wanted => "is " ++ wanted.word

/-- The words for which match of a sequence is meant. -/
def Position.phrase : Position → String
  | .nth 1 => "first occurrence of "
  | .nth index => "occurrence number " ++ toString index ++ " of "
  | .last => "last occurrence of "

/-- The words for a count of nodes, without the nodes. -/
def countPhrase (comparison : Comparison) (count : Nat) : String :=
  comparison.phrase ++ " " ++ toString count ++ " occurrences of "

/-- A description as it stands for the target of a relation: a union without an override is put in
parentheses, so that what follows is not read as part of its last branch. -/
def Path.asTarget (path : Path) (description : String) : String :=
  match path.override, path.node with
  | none, .union _ _ => "(" ++ description ++ ")"
  | _, _ => description

mutual

/-- The words for a path. -/
def Path.describe : Path → String
  | ⟨_, constraints, some override⟩ =>
      override.text ++ describeFrom override.covers false constraints
  | ⟨node, constraints, none⟩ => node.describe ++ describeFrom 0 false constraints

/-- The words for a node kind. -/
def Node.describe : Node → String
  | .element name => name
  | .any => "element"
  | .text content => "text node " ++ quoted content
  | .union left right => left.describe ++ " or " ++ right.describe
  | .occurrence path position => position.phrase ++ path.asTarget path.describe

/-- The words for the constraints after the first `skipped`. `afterProperty` tells whether the words so
far end with a property. -/
def describeFrom (skipped : Nat) (afterProperty : Bool) : List Constraint → String
  | [] => ""
  | .property property :: others =>
      match skipped with
      | 0 =>
          (if afterProperty then ", and " else ", that ") ++ property.describe ++
            describeFrom 0 true others
      | skipped + 1 => describeFrom skipped false others
  | .relation relation target :: others =>
      match skipped with
      | 0 =>
          ", " ++ relation.phrase ++ " " ++ target.asTarget target.describe ++
            describeFrom 0 false others
      | skipped + 1 => describeFrom skipped false others

/-- The words for a property. -/
def Property.describe : Property → String
  | .test test => test.describe
  | .related relation target =>
      relation.propertyPhrase ++ " " ++ target.asTarget target.describe
  | .siblingOf target => "is sibling of: " ++ target.asTarget target.describe
  | .occurrences comparison count target =>
      "contains " ++ countPhrase comparison count ++ target.asTarget target.describe
  | .custom _ phrase => phrase
  | .and left right => "(" ++ left.describe ++ " and " ++ right.describe ++ ")"
  | .or left right => "(" ++ left.describe ++ " or " ++ right.describe ++ ")"
  | .not inner => "not (" ++ inner.describe ++ ")"

end

/-- The words for a path that is the target of a relation. -/
def Path.describeTarget (path : Path) : String :=
  path.asTarget path.describe

/-- The words for a path with a count. -/
def CountedPath.describe (counted : CountedPath) : String :=
  countPhrase counted.comparison counted.count ++ counted.path.describeTarget

end Locator
