import Locator.XPath.Expr

/-!
# Paths, properties and relations

A path describes a set of nodes of a page: a kind of node, and constraints on it in the order in which
they were added. A constraint is a property of the candidate node or a relation between the candidate
and the nodes of another path. Paths are values; every combinator makes a new one.
-/

namespace Locator

set_option autoImplicit false

/-- The place of a node in the document-ordered sequence of matches. -/
inductive Position where
  /-- The `index`-th match, counted from one. -/
  | nth (index : Nat)
  | last
  deriving DecidableEq

/-- How the candidate node stands to a node of another path, the target. -/
inductive Relation where
  /-- The candidate is a descendant of the target. -/
  | inside
  /-- The candidate is an ancestor of the target. -/
  | containing
  | parentOf
  | childOf
  /-- The candidate follows the target in document order and is no descendant of it. -/
  | after
  | afterSibling
  /-- The candidate precedes the target in document order and is no ancestor of it. -/
  | before
  | beforeSibling
  /-- The target is the first node of its kind that follows the candidate. -/
  | immediatelyBefore
  | immediatelyBeforeSibling
  /-- The candidate is the first node of its kind that follows the target. -/
  | immediatelyAfter
  | immediatelyAfterSibling
  deriving DecidableEq

/-- How a number found compares with the number expected. -/
inductive Comparison where
  | exactly
  | atLeast
  | atMost
  deriving DecidableEq

/-- Which text of an element a text test looks at. -/
inductive TextScope where
  /-- The text nodes directly in the element, each on its own. -/
  | own
  /-- All text below the element, with white space normalised. -/
  | aggregated
  deriving DecidableEq

/-- How a text test compares. -/
inductive TextMatch where
  | equals
  | contains
  | startsWith
  | endsWith
  /-- The value is a pattern in which `*` stands for any run of characters. -/
  | pattern
  deriving DecidableEq

/-- The place of an element among the element children of its parent. -/
inductive SiblingPlace where
  /-- Counted from zero. -/
  | nth (index : Nat)
  | last
  | only
  deriving DecidableEq

/-- A state of a form element, told by its attributes. -/
inductive ElementState where
  | checked
  | selected
  | disabled
  | enabled
  deriving DecidableEq

/-- A property that looks at the candidate alone and not at another path. -/
inductive Test where
  | hasAttribute (name : String)
  | attributeEquals (name value : String)
  /-- The attribute, split at white space, has the word. -/
  | attributeHasWord (name word : String)
  | attributeContains (name value : String)
  | hasId (id : String)
  | hasClass (name : String)
  | hasAnyClass (names : List String)
  | hasAllClasses (names : List String)
  | classContains (fragment : String)
  | text (scope : TextScope) (comparison : TextMatch) (value : String)
  | sibling (place : SiblingPlace)
  | childCount (count : Nat)
  | hasChildren
  | noChildren
  | state (state : ElementState)
  deriving DecidableEq

/-- A description that stands in for the first `covers` constraints of a path and its node. -/
structure Override where
  text : String
  covers : Nat
  deriving DecidableEq

mutual

/-- A description of a set of nodes. -/
structure Path where
  node : Node
  constraints : List Constraint
  override : Option Override

/-- What a path selects before any constraint. -/
inductive Node where
  /-- Elements with this tag. -/
  | element (name : String)
  /-- Every element. -/
  | any
  /-- Text nodes whose normalised content is this. -/
  | text (content : String)
  /-- The nodes of both paths, in document order. -/
  | union (left right : Path)
  /-- One node of the document-ordered matches of a path. -/
  | occurrence (path : Path) (position : Position)

/-- One entry of a path's constraint list. -/
inductive Constraint where
  | property (property : Property)
  | relation (relation : Relation) (target : Path)

/-- A predicate on one node. -/
inductive Property where
  | test (test : Test)
  /-- The candidate stands in the relation to some node of the target. -/
  | related (relation : Relation) (target : Path)
  /-- The candidate shares its parent with some node of the target. -/
  | siblingOf (target : Path)
  /-- The number of descendants in the target compares with `count` as said. -/
  | occurrences (comparison : Comparison) (count : Nat) (target : Path)
  /-- A fragment of XPath with its phrase. -/
  | custom (fragment phrase : String)
  | and (left right : Property)
  | or (left right : Property)
  | not (inner : Property)

end

namespace Comparison

/-- Whether `actual` compares with `expected` as said. -/
def holds : Comparison → (actual expected : Nat) → Bool
  | .exactly, actual, expected => actual == expected
  | .atLeast, actual, expected => expected ≤ actual
  | .atMost, actual, expected => actual ≤ expected

/-- The comparison as an XPath operator. -/
def operator : Comparison → XPath.Operator
  | .exactly => .equal
  | .atLeast => .atLeast
  | .atMost => .atMost

end Comparison

/-- A path with the number of nodes expected of it. -/
structure CountedPath where
  comparison : Comparison
  count : Nat
  path : Path

namespace Path

/-- The path of a node kind, without constraints. -/
def ofNode (node : Node) : Path :=
  { node, constraints := [], override := none }

/-- Elements with the tag `name`. -/
def tag (name : String) : Path :=
  ofNode (.element name)

/-- Every element. -/
def any : Path :=
  ofNode .any

/-- Text nodes whose normalised content is `content`. -/
def textNode (content : String) : Path :=
  ofNode (.text content)

/-- True of paths that select text nodes by their content. -/
def isText (path : Path) : Bool :=
  match path.node with
  | .text _ => true
  | _ => false

/-- How many constraints the description override stands in for. -/
def describedUpto (path : Path) : Nat :=
  match path.override with
  | none => 0
  | some override => override.covers

end Path

end Locator
