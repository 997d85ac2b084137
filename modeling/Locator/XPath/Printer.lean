import Locator.XPath.Expr
import Locator.XPath.Lexical

/-!
# XPath expressions as text

Blanks are written around every operator except the comparisons, and except a union with the context
node, which is written tight.
-/

namespace Locator.XPath

open Locator.Text

set_option autoImplicit false

namespace Axis

/-- The axis as written in front of a node test. -/
def print : Axis → String
  | .self => "self::"
  | .child => "child::"
  | .parent => "parent::"
  | .ancestor => "ancestor::"
  | .preceding => "preceding::"
  | .following => "following::"
  | .precedingSibling => "preceding-sibling::"
  | .followingSibling => "following-sibling::"
  | .attributes => "@"

end Axis

namespace NodeTest

/-- The node test as written. -/
def print : NodeTest → String
  | .name label => label
  | .principal => "*"
  | .text => "text()"
  | .node => "node()"

end NodeTest

namespace Function

/-- The name of the function. -/
def name : Function → String
  | .true => "true"
  | .false => "false"
  | .not => "not"
  | .last => "last"
  | .count => "count"
  | .string => "string"
  | .localName => "local-name"
  | .normalizeSpace => "normalize-space"
  | .stringLength => "string-length"
  | .contains => "contains"
  | .startsWith => "starts-with"
  | .substring => "substring"
  | .substringAfter => "substring-after"
  | .concat => "concat"

end Function

namespace Operator

/-- The operator as written between its operands. -/
def print : Operator → String
  | .or => " or "
  | .and => " and "
  | .equal => "="
  | .atLeast => ">="
  | .atMost => "<="
  | .greater => ">"
  | .plus => " + "
  | .minus => " - "
  | .union => " | "

/-- The operator as written after `left`. -/
def printAfter : Operator → Expr → String
  | .union, .context => "|"
  | operator, _ => operator.print

end Operator

mutual

/-- The step as text. -/
def Step.print : Step → String
  | ⟨axis, test, predicates⟩ =>
      (axis.map Axis.print).getD "" ++ test.print ++ printPredicates predicates

/-- The expression as text. -/
def Expr.print : Expr → String
  | .context => "."
  | .parent => ".."
  | .literal value => XPath.literal value
  | .number value => toString value
  | .call function arguments => function.name ++ "(" ++ join ", " (printAll arguments) ++ ")"
  | .binary operator left right => left.print ++ operator.printAfter left ++ right.print
  | .group inner => "(" ++ inner.print ++ ")"
  | .step step => step.print
  | .anywhere step => "//" ++ step.print
  | .walk base step => base.print ++ "/" ++ step.print
  | .descend base step => base.print ++ "//" ++ step.print
  | .filter base predicate => base.print ++ "[" ++ predicate.print ++ "]"
  | .raw text => text

/-- Each expression as text. -/
def printAll : List Expr → List String
  | [] => []
  | first :: others => first.print :: printAll others

/-- The predicates as text, each in its own brackets. -/
def printPredicates : List Expr → String
  | [] => ""
  | first :: others => "[" ++ first.print ++ "]" ++ printPredicates others

end

theorem printAll_eq_map (expressions : List Expr) :
    printAll expressions = expressions.map Expr.print := by
  induction expressions with
  | nil => rfl
  | cons first others ih => simp [printAll, ih]

end Locator.XPath
