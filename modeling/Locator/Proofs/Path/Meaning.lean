import Locator.Path.Basic
import Locator.Proofs.Document.Tree
import Locator.Proofs.XPath.Strings

/-!
# What paths mean

The set of nodes that a path describes, said without XPath: the nodes of the given kind for which every
constraint holds. A relation to a target holds when some node of the target's own set stands in it to the
candidate; a union is the union of the sets; an occurrence is one node of the set in document order.
-/

namespace Locator

open Locator.XPath

set_option autoImplicit false

/-- Some ending of the text, the whole text included, satisfies a condition. -/
def anySuffix (condition : List Char → Bool) : List Char → Bool
  | [] => condition []
  | first :: others => condition (first :: others) || anySuffix condition others

/-- The text is the pattern with some characters, maybe none, put in the place of every star. -/
def matchesPattern : (pattern text : List Char) → Bool
  | [], text => text.isEmpty
  | first :: pattern, text =>
      if first = '*' then anySuffix (matchesPattern pattern) text
      else
        match text with
        | [] => false
        | character :: text => first == character && matchesPattern pattern text

/-- A text with its words one blank apart, and a blank at either end, has the word between two blanks. For a word
that is not empty and has no blank within, that is membership among the words of the text: `wordsHave_iff`. -/
def wordsHave (text : List Char) (word : String) : Bool :=
  hasPart (' ' :: normalizeSpace text ++ [' ']) (' ' :: word.toList ++ [' '])

def TextMatch.holds : TextMatch → (text value : List Char) → Bool
  | .equals, text, value => text == value
  | .contains, text, value => hasPart text value
  | .startsWith, text, value => value.isPrefixOf text
  | .endsWith, text, value => value.isSuffixOf text
  | .pattern, text, value => matchesPattern value text

namespace Document

variable (document : Document)

/-- The value of the first attribute with the name, empty when there is none. -/
def attributeText (address : Address) (name : String) : List Char :=
  (((document.attributes address).find? (·.1 == name)).map (·.2.toList)).getD []

def hasAttribute (address : Address) (name : String) : Bool :=
  (document.attributes address).any (·.1 == name)

def attributeIs (address : Address) (name value : String) : Bool :=
  (document.attributes address).any fun entry => entry.1 == name && entry.2 == value

def countElements (condition : Address → Bool) : Nat :=
  (document.addresses.filter fun address => document.isElement address && condition address).length

/-- The first node of the same kind as `like` that comes after `address` and everything below it. -/
def nextLike (like address : Address) : Option Address :=
  document.addresses.find? fun other =>
    Address.endsBefore address other && document.isElement other == document.isElement like

def nextSiblingLike (like address : Address) : Option Address :=
  document.addresses.find? fun other =>
    Address.siblingBefore address other && document.isElement other == document.isElement like

end Document

/-- Whether the node passes the test. Words and classes are looked for by `wordsHave`, which is membership among the
words of the value for words that are not empty and unbroken, by `wordsHave_iff`; for an empty word and for one with
blanks it is the condition that is compiled, as is a part of the class list, which may reach across its words. -/
def Test.holds (document : Document) : Test → Address → Bool
  | .hasAttribute name, address => document.hasAttribute address name
  | .attributeEquals name value, address => document.attributeIs address name value
  | .attributeHasWord name word, address => wordsHave (document.attributeText address name) word
  | .attributeContains name value, address =>
      hasPart (document.attributeText address name) value.toList
  | .hasId id, address => document.attributeIs address "id" id
  | .hasClass name, address => wordsHave (document.attributeText address "class") name
  | .hasAnyClass names, address => names.any (wordsHave (document.attributeText address "class"))
  | .hasAllClasses names, address => names.all (wordsHave (document.attributeText address "class"))
  | .classContains fragment, address =>
      hasPart (document.attributeText address "class") fragment.toList
  | .text .own comparison value, address =>
      document.addresses.any fun child =>
        document.isText child && Address.isParent address child &&
          comparison.holds (document.words child) value.toList
  | .text .aggregated comparison value, address =>
      comparison.holds (normalizeSpace (document.words address)) value.toList
  | .sibling (.nth index), address =>
      document.countElements (Address.siblingBefore · address) == index
  | .sibling .last, address => document.countElements (Address.siblingBefore address ·) == 0
  | .sibling .only, address => document.countElements (Address.isParent address.dropLast ·) == 1
  | .childCount count, address => document.countElements (Address.isParent address ·) == count
  | .hasChildren, address => decide (0 < document.countElements (Address.isParent address ·))
  | .noChildren, address => document.countElements (Address.isParent address ·) == 0
  | .state .checked, address => document.hasAttribute address "checked"
  | .state .selected, address => document.hasAttribute address "selected"
  | .state .disabled, address => document.hasAttribute address "disabled"
  | .state .enabled, address => !document.hasAttribute address "disabled"

/-- Whether the candidate stands in the relation to the target. -/
def Relation.holds (document : Document) : Relation → (candidate target : Address) → Bool
  | .inside, candidate, target => Address.above target candidate
  | .containing, candidate, target => Address.above candidate target
  | .parentOf, candidate, target => Address.isParent candidate target
  | .childOf, candidate, target => Address.isParent target candidate
  | .after, candidate, target => Address.endsBefore target candidate
  | .afterSibling, candidate, target => Address.siblingBefore target candidate
  | .before, candidate, target => Address.endsBefore candidate target
  | .beforeSibling, candidate, target => Address.siblingBefore candidate target
  | .immediatelyBefore, candidate, target => document.nextLike target candidate == some target
  | .immediatelyBeforeSibling, candidate, target =>
      document.nextSiblingLike target candidate == some target
  | .immediatelyAfter, candidate, target => document.nextLike candidate target == some candidate
  | .immediatelyAfterSibling, candidate, target =>
      document.nextSiblingLike candidate target == some candidate

/-- The node at a position of a sequence; positions count from one. -/
def Position.pick : Position → List Address → Option Address
  | .nth 0, _ => none
  | .nth (index + 1), found => found[index]?
  | .last, found => found.getLast?

mutual

/-- Whether a path describes the node at an address. -/
def Path.describes (document : Document) : Path → Address → Bool
  | ⟨node, constraints, _⟩, address =>
      node.admits document address && constraintsHold document constraints address

/-- Whether the node at an address is of the kind. -/
def Node.admits (document : Document) : Node → Address → Bool
  | .element name, address => (document.at? address).any (Tree.hasName name)
  | .any, address => document.isElement address
  | .text content, address =>
      document.isText address && normalizeSpace (document.words address) == content.toList
  | .union left right, address => left.describes document address || right.describes document address
  | .occurrence path position, address =>
      position.pick (document.addresses.filter (path.describes document)) == some address

/-- Whether all the constraints hold of the node at an address. -/
def constraintsHold (document : Document) : List Constraint → Address → Bool
  | [], _ => true
  | .property property :: others, address =>
      property.holds document address && constraintsHold document others address
  | .relation relation target :: others, address =>
      (document.addresses.any fun other =>
        target.describes document other && relation.holds document address other) &&
        constraintsHold document others address

/-- Whether a property holds of the node at an address. What a fragment means is not told here. -/
def Property.holds (document : Document) : Property → Address → Bool
  | .test test, address => test.holds document address
  | .related relation target, address =>
      document.addresses.any fun other =>
        target.describes document other && relation.holds document address other
  | .siblingOf target, address =>
      document.addresses.any fun other =>
        target.describes document other &&
          (Address.siblingBefore other address || Address.siblingBefore address other)
  | .occurrences comparison count target, address =>
      comparison.holds
        (document.addresses.filter fun other =>
          target.describes document other && Address.above address other).length
        count
  | .custom _ _, _ => false
  | .and left right, address => left.holds document address && right.holds document address
  | .or left right, address => left.holds document address || right.holds document address
  | .not inner, address => !inner.holds document address

end

mutual

/-- True of a path without fragments of text whose relations, at every depth, are among those allowed. -/
def Path.uses (allowed : Relation → Bool) : Path → Bool
  | ⟨node, constraints, _⟩ => node.uses allowed && allUse allowed constraints

def Node.uses (allowed : Relation → Bool) : Node → Bool
  | .element _ | .any | .text _ => true
  | .union left right => left.uses allowed && right.uses allowed
  | .occurrence path _ => path.uses allowed

def allUse (allowed : Relation → Bool) : List Constraint → Bool
  | [] => true
  | .property property :: others => property.uses allowed && allUse allowed others
  | .relation relation target :: others =>
      allowed relation && target.uses allowed && allUse allowed others

def Property.uses (allowed : Relation → Bool) : Property → Bool
  | .test _ => true
  | .related relation target => allowed relation && target.uses allowed
  | .siblingOf target => target.uses allowed
  | .occurrences _ _ target => target.uses allowed
  | .custom _ _ => false
  | .and left right | .or left right => left.uses allowed && right.uses allowed
  | .not inner => inner.uses allowed

end

/-- True of the relations to the next node, which the others do not need. -/
def Relation.isAdjacent : Relation → Bool
  | .immediatelyBefore | .immediatelyBeforeSibling | .immediatelyAfter | .immediatelyAfterSibling =>
      true
  | _ => false

/-- True of paths without fragments of text at any depth. -/
def Path.fragmentFree (path : Path) : Bool :=
  path.uses fun _ => true

/-- True of paths without fragments of text and without adjacency at any depth. -/
def Path.isPlain (path : Path) : Bool :=
  path.uses fun relation => !relation.isAdjacent

end Locator
