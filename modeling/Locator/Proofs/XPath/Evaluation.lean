import Locator.Proofs.XPath.Site
import Locator.Proofs.XPath.Strings

/-!
# What an expression selects

The meaning of expressions in a document, by the rules of XPath 1.0. Only whole numbers occur. `none` stands
for what lies outside the part of the language that is described here: a fragment that is text already, a
function with arguments it does not take, and a string or a set read as a number.
-/

namespace Locator.XPath

set_option autoImplicit false

/-- The four types of values. A set lists its nodes in document order. -/
inductive Value where
  | sites (found : List Site)
  | characters (text : List Char)
  | number (value : Int)
  | truth (value : Bool)

/-- Where an expression is evaluated: a node, its position among the nodes looked at, and how many these
are. -/
structure Context where
  site : Site
  position : Nat
  size : Nat

namespace Value

/-- The value as a condition. -/
def holds : Value → Bool
  | .sites found => !found.isEmpty
  | .characters text => !text.isEmpty
  | .number value => value != 0
  | .truth value => value

def isNumber : Value → Bool
  | .number _ => true
  | _ => false

/-- The value as a predicate: a number asks for the position. -/
def accepts (position : Nat) : Value → Bool
  | .number value => value == position
  | value => value.holds

/-- The value as a string; a set is as its first node. -/
def string (document : Document) : Value → List Char
  | .sites found => (found.head?.map document.stringValue).getD []
  | .characters text => text
  | .number value => (toString value).toList
  | .truth value => (if value then "true" else "false").toList

theorem string_characters (document : Document) (text : List Char) :
    (Value.characters text).string document = text := rfl

def sites? : Value → Option (List Site)
  | .sites found => some found
  | _ => none

def number? : Value → Option Int
  | .number value => some value
  | .truth value => some (if value then 1 else 0)
  | _ => none

/-- Equality. A set equals a string when one of its nodes does, and another set when two of their nodes
have the same string value. -/
def equals? (document : Document) : Value → Value → Option Bool
  | .truth left, right => some (left == right.holds)
  | left, .truth right => some (left.holds == right)
  | .sites left, .sites right =>
      some (left.any fun site => right.any fun site' =>
        document.stringValue site == document.stringValue site')
  | .sites found, .characters text => some (found.any fun site => document.stringValue site == text)
  | .characters text, .sites found => some (found.any fun site => document.stringValue site == text)
  | .characters left, .characters right => some (left == right)
  | .number left, .number right => some (left == right)
  | _, _ => none

/-- A comparison or calculation with two numbers. -/
def numbers? {Result : Type} (operation : Int → Int → Result) (left right : Value) : Option Result := do
  let left ← left.number?
  let right ← right.number?
  return operation left right

end Value

/-- The value of an operator for the values of its operands. -/
def applyOperator (document : Document) : Operator → Value → Value → Option Value
  | .or, left, right => some (.truth (left.holds || right.holds))
  | .and, left, right => some (.truth (left.holds && right.holds))
  | .equal, left, right => (left.equals? document right).map .truth
  | .atLeast, left, right => (left.numbers? (fun a b => decide (b ≤ a)) right).map .truth
  | .atMost, left, right => (left.numbers? (fun a b => decide (a ≤ b)) right).map .truth
  | .greater, left, right => (left.numbers? (fun a b => decide (b < a)) right).map .truth
  | .plus, left, right => (left.numbers? (· + ·) right).map .number
  | .minus, left, right => (left.numbers? (· - ·) right).map .number
  | .union, .sites left, .sites right => some (.sites (document.gather (left ++ right)))
  | .union, _, _ => none

/-- The value of a function for the values of its arguments. -/
def applyFunction (document : Document) (context : Context) : Function → List Value → Option Value
  | .true, [] => some (.truth true)
  | .false, [] => some (.truth false)
  | .not, [value] => some (.truth !value.holds)
  | .last, [] => some (.number context.size)
  | .count, [.sites found] => some (.number found.length)
  | .string, [value] => some (.characters (value.string document))
  | .localName, [] => some (.characters (document.localName context.site).toList)
  | .normalizeSpace, [value] => some (.characters (normalizeSpace (value.string document)))
  | .stringLength, [value] => some (.number (value.string document).length)
  | .contains, [value, part] => some (.truth (hasPart (value.string document) (part.string document)))
  | .startsWith, [value, part] =>
      some (.truth ((part.string document).isPrefixOf (value.string document)))
  | .substring, [value, .number first] =>
      some (.characters ((value.string document).drop (first - 1).toNat))
  | .substringAfter, [value, part] =>
      some (.characters ((afterFirst? (part.string document) (value.string document)).getD []))
  | .concat, first :: second :: others =>
      some (.characters ((first :: second :: others).flatMap (·.string document)))
  | _, _ => none

/-- What a step leads to from several nodes. -/
def reachAll (reach : Site → Option (List Site)) : List Site → Option (List Site)
  | [] => some []
  | start :: starts => do
      let found ← reach start
      let others ← reachAll reach starts
      return found ++ others

/-- The nodes, counted from `position` on, for which a predicate holds. -/
def retain (predicate : Context → Option Value) (size : Nat) : (position : Nat) → List Site →
    Option (List Site)
  | _, [] => some []
  | position, site :: sites => do
      let value ← predicate ⟨site, position, size⟩
      let others ← retain predicate size (position + 1) sites
      return if value.accepts position then site :: others else others

mutual

def Expr.eval (document : Document) : Expr → Context → Option Value
  | .context, context => some (.sites [context.site])
  | .parent, context => some (.sites (document.along .parent context.site))
  | .literal value, _ => some (.characters value.toList)
  | .number value, _ => some (.number value)
  | .call function arguments, context => do
      applyFunction document context function (← evalAll document arguments context)
  | .binary operator left right, context => do
      applyOperator document operator (← left.eval document context) (← right.eval document context)
  | .group inner, context => inner.eval document context
  | .step step, context => do
      let found ← step.reach document context.site
      return .sites (document.gather found)
  | .anywhere step, _ => do
      let found ← reachAll (step.reach document) (document.belowOrSelf (.node []))
      return .sites (document.gather found)
  | .walk base step, context => do
      let starts ← (← base.eval document context).sites?
      let found ← reachAll (step.reach document) starts
      return .sites (document.gather found)
  | .descend base step, context => do
      let starts ← (← base.eval document context).sites?
      let found ← reachAll (step.reach document) (starts.flatMap document.belowOrSelf)
      return .sites (document.gather found)
  | .filter base predicate, context => do
      let found ← (← base.eval document context).sites?
      let kept ← retain (predicate.eval document) found.length 1 found
      return .sites kept
  | .raw _, _ => none

def evalAll (document : Document) : List Expr → Context → Option (List Value)
  | [], _ => some []
  | first :: others, context => do
      let value ← first.eval document context
      let values ← evalAll document others context
      return value :: values

/-- What a step leads to from a node, the nearest first. -/
def Step.reach (document : Document) : Step → Site → Option (List Site)
  | ⟨axis, test, predicates⟩, start =>
      let axis := axis.getD .child
      narrow document predicates ((document.along axis start).filter (test.keeps document axis))

/-- The nodes that one predicate after the other keeps, each counting anew. -/
def narrow (document : Document) : List Expr → List Site → Option (List Site)
  | [], sites => some sites
  | predicate :: predicates, sites => do
      let kept ← retain (predicate.eval document) sites.length 1 sites
      narrow document predicates kept

end

/-- The nodes that an expression selects, evaluated at the document node. -/
def Expr.select (document : Document) (expression : Expr) : Option (List Site) := do
  (← expression.eval document ⟨.node [], 1, 1⟩).sites?

end Locator.XPath
