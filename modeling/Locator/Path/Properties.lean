import Locator.Error
import Locator.Path.Basic

/-!
# Properties by name

One function for each property of a node, whether it looks at the node alone or at another path.
-/

namespace Locator.Property

set_option autoImplicit false

/-- The attribute is present. -/
def hasAttribute (name : String) : Property :=
  .test (.hasAttribute name)

/-- The attribute has the value. -/
def hasAttributeValue (name value : String) : Property :=
  .test (.attributeEquals name value)

/-- The attribute, split at white space, has the word. -/
def hasAttributeWord (name word : String) : Property :=
  .test (.attributeHasWord name word)

/-- The attribute contains the text. -/
def hasAttributeContaining (name value : String) : Property :=
  .test (.attributeContains name value)

/-- The `role` attribute has the value. -/
def hasRole (role : String) : Property :=
  hasAttributeValue "role" role

/-- The `ref` attribute has the value. -/
def hasRef (value : String) : Property :=
  hasAttributeValue "ref" value

/-- The `id` attribute has the value. -/
def hasId (id : String) : Property :=
  .test (.hasId id)

/-- The class list has the class. -/
def hasClass (name : String) : Property :=
  .test (.hasClass name)

/-- The class list has at least one of the classes. -/
def hasAnyClass (names : List String) : Property :=
  .test (.hasAnyClass names)

/-- The class list has all of the classes. -/
def hasAllClasses (names : List String) : Property :=
  .test (.hasAllClasses names)

/-- Some class contains the fragment. -/
def hasClassContaining (fragment : String) : Property :=
  .test (.classContains fragment)

/-- Own text equals the value. -/
def hasText (value : String) : Property :=
  .test (.text .own .equals value)

/-- Own text contains the value. -/
def hasTextContaining (value : String) : Property :=
  .test (.text .own .contains value)

/-- Own text starts with the value. -/
def hasTextStartingWith (value : String) : Property :=
  .test (.text .own .startsWith value)

/-- Own text ends with the value. -/
def hasTextEndingWith (value : String) : Property :=
  .test (.text .own .endsWith value)

/-- Aggregated text equals the value. -/
def hasAggregatedText (value : String) : Property :=
  .test (.text .aggregated .equals value)

/-- Aggregated text contains the value. -/
def hasAggregatedTextContaining (value : String) : Property :=
  .test (.text .aggregated .contains value)

/-- Aggregated text starts with the value. -/
def hasAggregatedTextStartingWith (value : String) : Property :=
  .test (.text .aggregated .startsWith value)

/-- Aggregated text ends with the value. -/
def hasAggregatedTextEndingWith (value : String) : Property :=
  .test (.text .aggregated .endsWith value)

/-- The text matches a pattern in which `*` stands for any run of characters; an empty pattern is
refused. -/
def hasTextMatching (scope : TextScope) (pattern : String) : Except Error Property :=
  if pattern.isEmpty then .error ⟨.invalidArgument, "text pattern is empty"⟩
  else .ok (.test (.text scope .pattern pattern))

/-- The node has `index` siblings before it. -/
def isNthSibling (index : Nat) : Property :=
  .test (.sibling (.nth index))

/-- No sibling comes after the node. -/
def isLastSibling : Property :=
  .test (.sibling .last)

/-- The node has no siblings. -/
def isOnlyChild : Property :=
  .test (.sibling .only)

/-- The node has `count` element children. -/
def hasChildCount (count : Nat) : Property :=
  .test (.childCount count)

/-- The node has an element child. -/
def hasChildren : Property :=
  .test .hasChildren

/-- The node has no element child. -/
def hasNoChildren : Property :=
  .test .noChildren

/-- The form element is in the state. -/
def isInState (state : ElementState) : Property :=
  .test (.state state)

/-- A descendant is in `path`. -/
def contains (path : Path) : Property :=
  .related .containing path

/-- A child is in `path`. -/
def hasChild (path : Path) : Property :=
  .related .parentOf path

/-- The parent is in `path`. -/
def hasParent (path : Path) : Property :=
  .related .childOf path

/-- An ancestor is in `path`. -/
def hasAncestor (path : Path) : Property :=
  .related .inside path

/-- The node follows a node of `path`. -/
def isAfter (path : Path) : Property :=
  .related .after path

/-- The node precedes a node of `path`. -/
def isBefore (path : Path) : Property :=
  .related .before path

/-- An earlier sibling is in `path`. -/
def isAfterSibling (path : Path) : Property :=
  .related .afterSibling path

/-- A later sibling is in `path`. -/
def isBeforeSibling (path : Path) : Property :=
  .related .beforeSibling path

/-- The number of descendants in a path compares as said. -/
def containsOccurrences (counted : CountedPath) : Property :=
  .occurrences counted.comparison counted.count counted.path

/-- A maker of custom properties: one renderer for the fragment and one for the phrase. -/
def generator (fragment phrase : String → String) (value : String) : Property :=
  .custom (fragment value) (phrase value)

end Locator.Property
