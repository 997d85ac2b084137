import Locator.Path.Basic

/-!
# Equality of paths

Two paths are equal when their node kinds, constraints and overrides are, at every depth. `same`
decides it.
-/

namespace Locator

set_option autoImplicit false

mutual

/-- Decides whether two paths are equal. -/
def Path.same : Path → Path → Bool
  | ⟨node, constraints, override⟩, ⟨node', constraints', override'⟩ =>
      node.same node' && allSame constraints constraints' && override == override'

/-- Decides whether two node kinds are equal. -/
def Node.same : Node → Node → Bool
  | .element name, .element name' => name == name'
  | .any, .any => true
  | .text content, .text content' => content == content'
  | .union left right, .union left' right' => left.same left' && right.same right'
  | .occurrence path position, .occurrence path' position' =>
      path.same path' && position == position'
  | _, _ => false

/-- Decides whether two constraints are equal. -/
def Constraint.same : Constraint → Constraint → Bool
  | .property property, .property property' => property.same property'
  | .relation relation target, .relation relation' target' =>
      relation == relation' && target.same target'
  | _, _ => false

/-- Decides whether two constraint lists are equal. -/
def allSame : List Constraint → List Constraint → Bool
  | [], [] => true
  | first :: others, first' :: others' => first.same first' && allSame others others'
  | _, _ => false

/-- Decides whether two properties are equal. -/
def Property.same : Property → Property → Bool
  | .test test, .test test' => test == test'
  | .related relation target, .related relation' target' =>
      relation == relation' && target.same target'
  | .siblingOf target, .siblingOf target' => target.same target'
  | .occurrences comparison count target, .occurrences comparison' count' target' =>
      comparison == comparison' && count == count' && target.same target'
  | .custom fragment phrase, .custom fragment' phrase' =>
      fragment == fragment' && phrase == phrase'
  | .and left right, .and left' right' => left.same left' && right.same right'
  | .or left right, .or left' right' => left.same left' && right.same right'
  | .not inner, .not inner' => inner.same inner'
  | _, _ => false

end

mutual

theorem Path.same_iff : (left right : Path) → (left.same right = true ↔ left = right)
  | ⟨node, constraints, override⟩, ⟨node', constraints', override'⟩ => by
      simp [Path.same, Node.same_iff node node', allSame_iff constraints constraints', and_assoc]

theorem Node.same_iff : (left right : Node) → (left.same right = true ↔ left = right)
  | .element _, right => by cases right <;> simp [Node.same]
  | .any, right => by cases right <;> simp [Node.same]
  | .text _, right => by cases right <;> simp [Node.same]
  | .union left right, other => by
      cases other with
      | union left' right' => simp [Node.same, Path.same_iff left left', Path.same_iff right right']
      | _ => simp [Node.same]
  | .occurrence path position, other => by
      cases other with
      | occurrence path' position' => simp [Node.same, Path.same_iff path path']
      | _ => simp [Node.same]

theorem Constraint.same_iff : (left right : Constraint) → (left.same right = true ↔ left = right)
  | .property property, other => by
      cases other with
      | property property' => simp [Constraint.same, Property.same_iff property property']
      | _ => simp [Constraint.same]
  | .relation relation target, other => by
      cases other with
      | relation relation' target' => simp [Constraint.same, Path.same_iff target target']
      | _ => simp [Constraint.same]

theorem allSame_iff : (left right : List Constraint) → (allSame left right = true ↔ left = right)
  | [], right => by cases right <;> simp [allSame]
  | first :: others, right => by
      cases right with
      | nil => simp [allSame]
      | cons first' others' =>
          simp [allSame, Constraint.same_iff first first', allSame_iff others others']

theorem Property.same_iff : (left right : Property) → (left.same right = true ↔ left = right)
  | .test _, other => by cases other <;> simp [Property.same]
  | .related relation target, other => by
      cases other with
      | related relation' target' => simp [Property.same, Path.same_iff target target']
      | _ => simp [Property.same]
  | .siblingOf target, other => by
      cases other with
      | siblingOf target' => simp [Property.same, Path.same_iff target target']
      | _ => simp [Property.same]
  | .occurrences comparison count target, other => by
      cases other with
      | occurrences comparison' count' target' =>
          simp [Property.same, Path.same_iff target target', and_assoc]
      | _ => simp [Property.same]
  | .custom _ _, other => by cases other <;> simp [Property.same]
  | .and left right, other => by
      cases other with
      | and left' right' =>
          simp [Property.same, Property.same_iff left left', Property.same_iff right right']
      | _ => simp [Property.same]
  | .or left right, other => by
      cases other with
      | or left' right' =>
          simp [Property.same, Property.same_iff left left', Property.same_iff right right']
      | _ => simp [Property.same]
  | .not inner, other => by
      cases other with
      | not inner' => simp [Property.same, Property.same_iff inner inner']
      | _ => simp [Property.same]

end

instance : DecidableEq Path := fun left right =>
  decidable_of_iff (left.same right = true) (Path.same_iff left right)

instance : DecidableEq Property := fun left right =>
  decidable_of_iff (left.same right = true) (Property.same_iff left right)

end Locator
