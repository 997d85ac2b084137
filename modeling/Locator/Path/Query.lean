import Locator.Path.Basic
import Locator.XPath.Condition
import Locator.XPath.Printer

/-!
# Paths as XPath expressions

A path whose node kind is a tag, any element or a text becomes a location path. Its first constraint
that is a relation leading from the target to the candidate becomes the start of that location path;
every other constraint becomes a condition in one predicate block. A union or an occurrence becomes a
parenthesised set with a predicate block.

As the target of a relation a path is needed once more, as a single step after an axis. A set has no
such step, so there it becomes a membership test: a node is in a set exactly when adding it does not
make the set larger.
-/

namespace Locator

open Locator.XPath

set_option autoImplicit false

namespace Test

/-- The text an aggregated text test looks at. -/
def aggregatedText : Expr :=
  .call .normalizeSpace [.call .string [.context]]

/-- The text of `subject` compares with `value` as said. -/
def textCondition (subject : Expr) (comparison : TextMatch) (value : String) : Expr :=
  match comparison with
  | .equals => .equals subject (.literal value)
  | .contains => XPath.contains subject value
  | .startsWith => startsWith subject value
  | .endsWith => endsWith subject value
  | .pattern => wildcard subject value

/-- The element children along `axis`, as a set. -/
def siblings (axis : Axis) : Expr :=
  .step (Step.elements axis)

/-- The element children of the context node. -/
def children : Expr :=
  .step { axis := none, test := .principal, predicates := [] }

/-- The text nodes directly in the context node that satisfy the predicates. -/
def ownText (predicates : List Expr) : Expr :=
  .step { axis := none, test := .text, predicates }

/-- The condition on the context node that a test stands for. -/
def condition : Test → Expr
  | .hasAttribute name => attributeNamed name
  | .attributeEquals name value => .equals (attributeNamed name) (.literal value)
  | .attributeHasWord name word => hasWord (attributeNamed name) word
  | .attributeContains name value => XPath.contains (attributeNamed name) value
  | .hasId id => .equals (attributeNamed "id") (.literal id)
  | .hasClass name => hasWord (attributeNamed "class") name
  | .hasAnyClass names =>
      .joined .or (.call .false []) (names.map (hasWord (attributeNamed "class")))
  | .hasAllClasses names =>
      .joined .and (.call .true []) (names.map (hasWord (attributeNamed "class")))
  | .classContains fragment => XPath.contains (attributeNamed "class") fragment
  | .text .own .equals value => .equals (ownText []) (.literal value)
  | .text .own comparison value => ownText [textCondition .context comparison value]
  | .text .aggregated comparison value => textCondition aggregatedText comparison value
  | .sibling (.nth index) => .equals (.count (siblings .precedingSibling)) (.number index)
  | .sibling .last => .equals (.count (siblings .followingSibling)) (.number 0)
  | .sibling .only =>
      .equals (.count (.walk .parent { axis := none, test := .principal, predicates := [] }))
        (.number 1)
  | .childCount count => .equals (.count children) (.number count)
  | .hasChildren => .binary .greater (.count children) (.number 0)
  | .noChildren => .equals (.count children) (.number 0)
  | .state .checked => attributeNamed "checked"
  | .state .selected => attributeNamed "selected"
  | .state .disabled => attributeNamed "disabled"
  | .state .enabled => .negate (attributeNamed "disabled")

end Test

namespace Relation

/-- True of the relations that lead from the target to the candidate along an axis, so that a location
path can start with the target. -/
def leads : Relation → Bool
  | .containing | .parentOf => false
  | _ => true

/-- The nodes reached by `tail` from a set of targets. `kind` is the node test of the candidates' kind;
the next or previous node is the first of that kind, and then has to be a candidate. -/
def start (relation : Relation) (targets : Expr) (kind : NodeTest) (tail : Step) : Expr :=
  let nearest (axis : Axis) : Expr :=
    .walk (.walk targets { axis := some axis, test := kind, predicates := [.number 1] })
      (tail.along .self)
  match relation with
  | .inside => .descend targets tail
  | .childOf => .walk targets tail
  | .after => .walk targets (tail.along .following)
  | .afterSibling => .walk targets (tail.along .followingSibling)
  | .before => .walk targets (tail.along .preceding)
  | .beforeSibling => .walk targets (tail.along .precedingSibling)
  | .immediatelyBefore => nearest .preceding
  | .immediatelyBeforeSibling => nearest .precedingSibling
  | .immediatelyAfter => nearest .following
  | .immediatelyAfterSibling => nearest .followingSibling
  | .containing | .parentOf => .anywhere tail

/-- The condition that the context node stands in the relation to a node of the target, given as a step.
`kind` is the node test of the target's kind. -/
def condition (relation : Relation) (kind : NodeTest) (target : Step) : Expr :=
  let nearest (axis : Axis) : Expr :=
    .step
      { axis := some axis
        test := kind
        predicates := [.number 1, .step (target.along .self)] }
  match relation with
  | .inside => .step (target.along .ancestor)
  | .containing => .descend .context target
  | .parentOf => .step (target.along .child)
  | .childOf => .step (target.along .parent)
  | .after => .step (target.along .preceding)
  | .afterSibling => .step (target.along .precedingSibling)
  | .before => .step (target.along .following)
  | .beforeSibling => .step (target.along .followingSibling)
  | .immediatelyBefore => nearest .following
  | .immediatelyBeforeSibling => nearest .followingSibling
  | .immediatelyAfter => nearest .preceding
  | .immediatelyAfterSibling => nearest .precedingSibling

end Relation

/-- The predicate that picks one match of a sequence. -/
def Position.predicate : Position → Expr
  | .nth index => .number index
  | .last => .call .last []

/-- The node test of a node kind that is written as a step, and the conditions that come with it. -/
def Node.test : Node → NodeTest × List Expr
  | .element name =>
      if isPlainName name then (.name name, [])
      else (.principal, [.equals (.call .localName []) (.literal name)])
  | .text content =>
      (.text, [.equals (.call .normalizeSpace [.context]) (.literal content)])
  | .any | .union _ _ | .occurrence _ _ => (.principal, [])

/-- The node test for nodes of the path's kind: text nodes or elements. -/
def Path.kind (path : Path) : NodeTest :=
  if path.isText then .text else .principal

/-- The step that keeps the members of `set`, whatever the axis. -/
def memberStep (set : Expr) : Step :=
  { axis := none
    test := .node
    predicates := [.equals (.count (.binary .union .context set)) (.count set)] }

/-- A sibling on either side is kept by the step. -/
def siblingCondition (target : Step) : Expr :=
  .group
    (.binary .or (.step (target.along .precedingSibling)) (.step (target.along .followingSibling)))

/-- The number of descendants kept by the step compares with `count` as said. -/
def countCondition (comparison : Comparison) (count : Nat) (target : Step) : Expr :=
  .binary comparison.operator (.count (.descend .context target)) (.number count)

mutual

/-- The nodes of the whole document that the path describes. -/
def Path.query : Path → Expr
  | ⟨node, constraints, override⟩ =>
      match node.set? with
      | some set => set.restrict (conditions constraints)
      | none =>
          let (test, own) := node.test
          let tail : Step :=
            { axis := none, test, predicates := Expr.conjunction (own ++ remaining constraints) }
          startWith (Path.kind ⟨node, constraints, override⟩) tail constraints

/-- The path as a step to be put after an axis. -/
def Path.step : Path → Step
  | ⟨node, constraints, _⟩ =>
      match node.set? with
      | some set => memberStep (set.restrict (conditions constraints))
      | none =>
          let (test, own) := node.test
          { axis := none, test, predicates := Expr.conjunction (own ++ conditions constraints) }

/-- The set of a node kind that is not written as a step. -/
def Node.set? : Node → Option Expr
  | .union left right => some (.group (.binary .union left.query right.query))
  | .occurrence path position => some (.filter (.group path.query) position.predicate)
  | .element _ | .any | .text _ => none

/-- The location path that starts at the first leading relation and goes on with `tail`. -/
def startWith (kind : NodeTest) (tail : Step) : List Constraint → Expr
  | [] => .anywhere tail
  | .relation relation target :: others =>
      if relation.leads then relation.start target.query kind tail
      else startWith kind tail others
  | .property _ :: others => startWith kind tail others

/-- The conditions of all constraints but the first leading relation. -/
def remaining : List Constraint → List Expr
  | [] => []
  | .relation relation target :: others =>
      if relation.leads then conditions others
      else relation.condition target.kind target.step :: remaining others
  | .property property :: others => property.conjuncts ++ remaining others

/-- The conditions of all constraints. -/
def conditions : List Constraint → List Expr
  | [] => []
  | .relation relation target :: others =>
      relation.condition target.kind target.step :: conditions others
  | .property property :: others => property.conjuncts ++ conditions others

/-- The conditions whose conjunction a property is: a conjunction at the top is taken apart. -/
def Property.conjuncts : Property → List Expr
  | .and left right => left.conjuncts ++ right.conjuncts
  | .test leaf => [leaf.condition]
  | .related relation target => [relation.condition target.kind target.step]
  | .siblingOf target => [siblingCondition target.step]
  | .occurrences comparison count target => [countCondition comparison count target.step]
  | .custom fragment _ => [.raw fragment]
  | .or left right => [.group (.binary .or left.condition right.condition)]
  | .not inner => [.negate inner.condition]

/-- The condition on the context node that a property stands for, as one operand. -/
def Property.condition : Property → Expr
  | .test leaf => leaf.condition
  | .related relation target => relation.condition target.kind target.step
  | .siblingOf target => siblingCondition target.step
  | .occurrences comparison count target => countCondition comparison count target.step
  | .custom fragment _ => .raw fragment
  | .and left right => .group (.binary .and left.condition right.condition)
  | .or left right => .group (.binary .or left.condition right.condition)
  | .not inner => .negate inner.condition

end

/-- The XPath 1.0 expression for a path. -/
def Path.toXPath (path : Path) : String :=
  path.query.print

/-- The XPath 1.0 condition for a property. -/
def Property.toXPath (property : Property) : String :=
  property.condition.print

end Locator
