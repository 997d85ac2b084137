import Locator.Path.Query

/-!
# How expressions of paths begin

A path of elements or text nodes becomes a location path, a union or an occurrence becomes a set in
parentheses. A location path that starts with the targets of a relation begins as these do.
-/

namespace Locator

set_option autoImplicit false

/-- True of the kinds of nodes that are given by other paths. -/
def Node.isSet : Node → Bool
  | .union _ _ | .occurrence _ _ => true
  | .element _ | .any | .text _ => false

mutual

/-- True of the paths whose expression begins with a set in parentheses. -/
def Path.opensWithSet : Path → Bool
  | ⟨node, constraints, _⟩ => node.isSet || leadOpensWithSet constraints

def leadOpensWithSet : List Constraint → Bool
  | [] => false
  | .relation relation target :: others =>
      if relation.leads then target.opensWithSet else leadOpensWithSet others
  | .property _ :: others => leadOpensWithSet others

end

/-- Only the kind of node tells whether a path selects text nodes. -/
theorem kind_mk (node : Node) (constraints : List Constraint) (override : Option Override) :
    Path.kind ⟨node, constraints, override⟩ = (Path.ofNode node).kind := rfl

theorem Node.set?_eq_none {node : Node} (noSet : node.isSet = false) : node.set? = none := by
  cases node <;> simp_all [Node.isSet, Node.set?]

end Locator
