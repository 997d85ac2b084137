/-!
# XPath expressions

The part of XPath 1.0 that element paths are expressed in. An expression is kept as a tree, so what it
selects can be said without reading text back; `Locator.XPath.Printer` writes it down. The one leaf
that is text already is `Expr.raw`, a fragment supplied by the caller.

Parentheses are part of the tree (`Expr.group`): the printer adds none, so a tree shows exactly where
the text has them.
-/

namespace Locator.XPath

set_option autoImplicit false

/-- The direction in which a step leaves its context node. -/
inductive Axis where
  | self
  | child
  | parent
  | ancestor
  | preceding
  | following
  | precedingSibling
  | followingSibling
  | attributes
  deriving DecidableEq

/-- Which nodes on an axis a step keeps. -/
inductive NodeTest where
  /-- Elements, or on the attribute axis attributes, with this name. -/
  | name (name : String)
  /-- Every element, or on the attribute axis every attribute. -/
  | principal
  /-- Text nodes. -/
  | text
  /-- Every node. -/
  | node
  deriving DecidableEq

/-- Binary operators. -/
inductive Operator where
  | or
  | and
  | equal
  | atLeast
  | atMost
  | greater
  | plus
  | minus
  | union
  deriving DecidableEq

/-- Functions of the core library. -/
inductive Function where
  | «true»
  | «false»
  | not
  | last
  | count
  | string
  | localName
  | normalizeSpace
  | stringLength
  | contains
  | startsWith
  | substring
  | substringAfter
  | concat
  deriving DecidableEq

mutual

/-- One location step. The child axis may stay unwritten. -/
structure Step where
  axis : Option Axis
  test : NodeTest
  predicates : List Expr

/-- An expression. -/
inductive Expr where
  /-- The context node. -/
  | context
  /-- The parent of the context node, in its short form. -/
  | parent
  /-- A string. -/
  | literal (value : String)
  /-- A number; only whole numbers from zero on are written. -/
  | number (value : Nat)
  /-- A function call. -/
  | call (function : Function) (arguments : List Expr)
  /-- Two operands and the operator between them. -/
  | binary (operator : Operator) (left right : Expr)
  /-- A parenthesised expression. -/
  | group (inner : Expr)
  /-- A step from the context node. -/
  | step (step : Step)
  /-- A step from every node of the document. -/
  | anywhere (step : Step)
  /-- A step from each node of a set. -/
  | walk (base : Expr) (step : Step)
  /-- A step from each node of a set and from each of their descendants. -/
  | descend (base : Expr) (step : Step)
  /-- The nodes of a set that satisfy a predicate. -/
  | filter (base predicate : Expr)
  /-- A fragment that is text already. -/
  | raw (text : String)

end

namespace Step

/-- The same step along `axis`. -/
def along (axis : Axis) (step : Step) : Step :=
  { step with axis := some axis }

/-- A step along `axis` that keeps every element. -/
def elements (axis : Axis) : Step :=
  { axis := some axis, test := .principal, predicates := [] }

end Step

namespace Expr

/-- Equality of two expressions. -/
def equals (left right : Expr) : Expr :=
  .binary .equal left right

/-- The number of nodes in a set. -/
def count (set : Expr) : Expr :=
  .call .count [set]

/-- Logical negation. -/
def negate (inner : Expr) : Expr :=
  .call .not [inner]

/-- The operands joined from left to right by one operator; `none` without operands. -/
def chain (operator : Operator) : List Expr → Option Expr
  | [] => none
  | first :: others => some (others.foldl (.binary operator) first)

/-- The predicate that holds when all the conditions do; no predicate at all without conditions. -/
def conjunction (conditions : List Expr) : List Expr :=
  (chain .and conditions).toList

/-- The nodes of `set` for which all the conditions hold. -/
def restrict (set : Expr) (conditions : List Expr) : Expr :=
  (conjunction conditions).foldl .filter set

/-- The conditions joined by `operator` as one operand: `empty` without conditions, a single
condition as it is, several in parentheses. -/
def joined (operator : Operator) (empty : Expr) : List Expr → Expr
  | [] => empty
  | [condition] => condition
  | first :: others => .group (others.foldl (.binary operator) first)

end Expr

end Locator.XPath
