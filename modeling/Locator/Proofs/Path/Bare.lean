import Locator.Path.Query
import Locator.Proofs.Path.Chain

/-!
# Paths without overrides

Two paths differ only in their overrides, at any depth, when they are the same with all overrides taken away. What
a path compiles to does not look at overrides, and to build with bare paths is to build and then take the
overrides away.
-/

namespace Locator

open Locator.XPath

set_option autoImplicit false

mutual

def Path.bare : Path → Path
  | ⟨node, constraints, _⟩ => ⟨node.bare, bareAll constraints, none⟩

def Node.bare : Node → Node
  | .element name => .element name
  | .any => .any
  | .text content => .text content
  | .union left right => .union left.bare right.bare
  | .occurrence path position => .occurrence path.bare position

def Constraint.bare : Constraint → Constraint
  | .property property => .property property.bare
  | .relation relation target => .relation relation target.bare

def bareAll : List Constraint → List Constraint
  | [] => []
  | first :: others => first.bare :: bareAll others

def Property.bare : Property → Property
  | .test test => .test test
  | .related relation target => .related relation target.bare
  | .siblingOf target => .siblingOf target.bare
  | .occurrences comparison count target => .occurrences comparison count target.bare
  | .custom fragment phrase => .custom fragment phrase
  | .and left right => .and left.bare right.bare
  | .or left right => .or left.bare right.bare
  | .not inner => .not inner.bare

end

theorem bareAll_eq_map (constraints : List Constraint) :
    bareAll constraints = constraints.map Constraint.bare := by
  induction constraints with
  | nil => rfl
  | cons first others ih => rw [bareAll, ih, List.map_cons]

/-! ## What is compiled -/

theorem Path.isText_bare (path : Path) : path.bare.isText = path.isText := by
  rcases path with ⟨node, constraints, override⟩
  cases node <;> rfl

theorem Path.kind_bare (path : Path) : path.bare.kind = path.kind := by
  rw [kind, isText_bare, ← kind]

theorem Node.test_bare (node : Node) : node.bare.test = node.test := by
  cases node <;> rfl

mutual

theorem Path.query_bare : (path : Path) → path.bare.query = path.query
  | ⟨node, constraints, override⟩ => by
      have kind := Path.kind_bare ⟨node, constraints, override⟩
      simp only [Path.bare] at kind
      simp only [Path.bare, Path.query, kind, Node.set?_bare node, Node.test_bare,
        conditions_bareAll constraints, remaining_bareAll constraints, startWith_bareAll _ _ constraints]

theorem Path.step_bare : (path : Path) → path.bare.step = path.step
  | ⟨node, constraints, override⟩ => by
      simp only [Path.bare, Path.step, Node.set?_bare node, Node.test_bare, conditions_bareAll constraints]

theorem Node.set?_bare : (node : Node) → node.bare.set? = node.set?
  | .element _ | .any | .text _ => rfl
  | .union left right => by
      simp only [Node.bare, Node.set?, Path.query_bare left, Path.query_bare right]
  | .occurrence path position => by simp only [Node.bare, Node.set?, Path.query_bare path]

theorem startWith_bareAll (kind : NodeTest) (tail : Step) : (constraints : List Constraint) →
    startWith kind tail (bareAll constraints) = startWith kind tail constraints
  | [] => rfl
  | .relation relation target :: others => by
      simp only [bareAll, Constraint.bare, startWith, Path.query_bare target, startWith_bareAll _ _ others]
  | .property property :: others => by
      simp only [bareAll, Constraint.bare, startWith, startWith_bareAll _ _ others]

theorem remaining_bareAll : (constraints : List Constraint) →
    remaining (bareAll constraints) = remaining constraints
  | [] => rfl
  | .relation relation target :: others => by
      simp only [bareAll, Constraint.bare, remaining, Path.kind_bare, Path.step_bare target,
        conditions_bareAll others, remaining_bareAll others]
  | .property property :: others => by
      simp only [bareAll, Constraint.bare, remaining, Property.conjuncts_bare property, remaining_bareAll others]

theorem conditions_bareAll : (constraints : List Constraint) →
    conditions (bareAll constraints) = conditions constraints
  | [] => rfl
  | .relation relation target :: others => by
      simp only [bareAll, Constraint.bare, conditions, Path.kind_bare, Path.step_bare target,
        conditions_bareAll others]
  | .property property :: others => by
      simp only [bareAll, Constraint.bare, conditions, Property.conjuncts_bare property,
        conditions_bareAll others]

theorem Property.conjuncts_bare : (property : Property) → property.bare.conjuncts = property.conjuncts
  | .test _ | .custom _ _ => rfl
  | .related relation target => by
      simp only [Property.bare, Property.conjuncts, Path.kind_bare, Path.step_bare target]
  | .siblingOf target => by simp only [Property.bare, Property.conjuncts, Path.step_bare target]
  | .occurrences comparison count target => by
      simp only [Property.bare, Property.conjuncts, Path.step_bare target]
  | .and left right => by
      simp only [Property.bare, Property.conjuncts, Property.conjuncts_bare left, Property.conjuncts_bare right]
  | .or left right => by
      simp only [Property.bare, Property.conjuncts, Property.condition_bare left, Property.condition_bare right]
  | .not inner => by simp only [Property.bare, Property.conjuncts, Property.condition_bare inner]

theorem Property.condition_bare : (property : Property) → property.bare.condition = property.condition
  | .test _ | .custom _ _ => rfl
  | .related relation target => by
      simp only [Property.bare, Property.condition, Path.kind_bare, Path.step_bare target]
  | .siblingOf target => by simp only [Property.bare, Property.condition, Path.step_bare target]
  | .occurrences comparison count target => by
      simp only [Property.bare, Property.condition, Path.step_bare target]
  | .and left right => by
      simp only [Property.bare, Property.condition, Property.condition_bare left, Property.condition_bare right]
  | .or left right => by
      simp only [Property.bare, Property.condition, Property.condition_bare left, Property.condition_bare right]
  | .not inner => by simp only [Property.bare, Property.condition, Property.condition_bare inner]

end

/-! ## What is built -/

theorem Constraint.isInside_bare (constraint : Constraint) : constraint.bare.isInside = constraint.isInside := by
  cases constraint with
  | property property => rfl
  | relation relation target => cases relation <;> rfl

theorem Insideless.bare {constraints : List Constraint} (insideless : Insideless constraints) :
    Insideless (constraints.map Constraint.bare) := by
  intro constraint member
  obtain ⟨original, inside, rfl⟩ := List.mem_map.mp member
  rw [Constraint.isInside_bare]
  exact insideless original inside

namespace Path

theorem bare_or (left right : Path) : (left.or right).bare = left.bare.or right.bare := rfl

theorem bare_occurrence (path : Path) (position : Position) :
    (path.occurrence position).bare = path.bare.occurrence position := rfl

theorem bare_describedBy (path : Path) (text : String) : (path.describedBy text).bare = path.bare := by
  rcases path with ⟨node, constraints, override⟩
  rfl

theorem bare_constrain (path : Path) (constraint : Constraint) :
    (path.constrain constraint).bare = path.bare.constrain constraint.bare := by
  rcases path with ⟨node, constraints, override⟩
  simp [constrain, bare, bareAll_eq_map]

theorem bare_that (path : Path) (properties : List Property) :
    (path.that properties).bare = path.bare.that (properties.map Property.bare) := by
  rcases path with ⟨node, constraints, override⟩
  simp [that, bare, bareAll_eq_map, Constraint.bare]

theorem bare_inside (path ancestor : Path) : (path.inside ancestor).bare = path.bare.inside ancestor.bare := by
  induction path using chain_induction with
  | last node constraints override insideless =>
      rw [inside_last insideless]
      simp only [bare, bareAll_eq_map, List.map_append, List.map_cons, List.map_nil, Constraint.bare]
      rw [inside_last insideless.bare]
  | further node front target back override insideless ih =>
      rw [inside_further insideless]
      simp only [bare, bareAll_eq_map, List.map_append, List.map_cons, Constraint.bare]
      rw [inside_further insideless.bare, ih, Option.map_none]

end Path

end Locator
