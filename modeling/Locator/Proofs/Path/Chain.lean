import Locator.Path.Build

/-!
# The chain of ancestors

A path leads to the ancestor that it is inside of, that one to its own, and so on. To put a path inside of one
more ancestor goes down this chain: a path on the way keeps all but its `inside`, and the last one, which has none
yet, gets one.
-/

namespace Locator

set_option autoImplicit false

def Constraint.isInside : Constraint → Bool
  | .relation .inside _ => true
  | _ => false

def Insideless (constraints : List Constraint) : Prop :=
  ∀ constraint ∈ constraints, constraint.isInside = false

mutual

/-- The path, the target of its first `inside`, the target of that one's, and so on. -/
def Path.chain : Path → List Path
  | ⟨node, constraints, override⟩ => ⟨node, constraints, override⟩ :: chainBelow constraints

def chainBelow : List Constraint → List Path
  | [] => []
  | .relation .inside target :: _ => target.chain
  | _ :: others => chainBelow others

end

theorem insideless_or_split (constraints : List Constraint) :
    Insideless constraints ∨
      ∃ front target back, constraints = front ++ .relation .inside target :: back ∧ Insideless front := by
  induction constraints with
  | nil => exact .inl (by simp [Insideless])
  | cons first others ih =>
      cases isInside : first.isInside with
      | true =>
          cases first with
          | property property => simp [Constraint.isInside] at isInside
          | relation relation target =>
              cases relation with
              | inside => exact .inr ⟨[], target, others, rfl, by simp [Insideless]⟩
              | _ => simp [Constraint.isInside] at isInside
      | false =>
          rcases ih with insideless | ⟨front, target, back, rfl, insideless⟩
          · exact .inl (List.forall_mem_cons.mpr ⟨isInside, insideless⟩)
          · exact .inr ⟨first :: front, target, back, rfl, List.forall_mem_cons.mpr ⟨isInside, insideless⟩⟩

/-- Induction along the chain: a path without `inside`, or one whose `inside` leads to the next. -/
theorem Path.chain_induction {motive : Path → Prop}
    (last : ∀ node constraints override, Insideless constraints → motive ⟨node, constraints, override⟩)
    (further : ∀ node front target back override, Insideless front → motive target →
      motive ⟨node, front ++ .relation .inside target :: back, override⟩) (path : Path) : motive path := by
  rcases path with ⟨node, constraints, override⟩
  rcases insideless_or_split constraints with insideless | ⟨front, target, back, same, insideless⟩
  · exact last node constraints override insideless
  · subst same
    exact further node front target back override insideless (chain_induction last further target)
termination_by sizeOf path
decreasing_by
  have member : Constraint.relation .inside target ∈ constraints := by simp [same]
  have smaller := List.sizeOf_lt_of_mem member
  simp only [Path.mk.sizeOf_spec, Constraint.relation.sizeOf_spec] at *
  omega

section Steps

variable {first : Constraint} {front back others : List Constraint}

theorem chainBelow_cons (notInside : first.isInside = false) :
    chainBelow (first :: others) = chainBelow others := by
  cases first with
  | property property => rfl
  | relation relation target =>
      cases relation with
      | inside => simp [Constraint.isInside] at notInside
      | _ => rfl

theorem insideFirst_cons (notInside : first.isInside = false) (ancestor : Path) :
    Path.insideFirst ancestor (first :: others) =
      (Path.insideFirst ancestor others).map fun (refined, index) => (first :: refined, index + 1) := by
  cases first with
  | property property => simp [Path.insideFirst]
  | relation relation target =>
      cases relation with
      | inside => simp [Constraint.isInside] at notInside
      | _ => simp [Path.insideFirst]

theorem chainBelow_append (insideless : Insideless front) : chainBelow (front ++ back) = chainBelow back := by
  induction front with
  | nil => rfl
  | cons first others ih =>
      obtain ⟨notInside, insideless⟩ := List.forall_mem_cons.mp insideless
      rw [List.cons_append, chainBelow_cons notInside, ih insideless]

theorem insideFirst_append (insideless : Insideless front) (ancestor : Path) :
    Path.insideFirst ancestor (front ++ back) =
      (Path.insideFirst ancestor back).map fun (refined, index) => (front ++ refined, index + front.length) := by
  induction front with
  | nil => simp
  | cons first others ih =>
      obtain ⟨notInside, insideless⟩ := List.forall_mem_cons.mp insideless
      rw [List.cons_append, insideFirst_cons notInside, ih insideless, Option.map_map]
      rfl

end Steps

/-! ## One more ancestor -/

namespace Path

variable {constraints front : List Constraint}

theorem chain_last (insideless : Insideless constraints) (node : Node) (override : Option Override) :
    Path.chain ⟨node, constraints, override⟩ = [⟨node, constraints, override⟩] := by
  have below : chainBelow (constraints ++ []) = [] := chainBelow_append insideless
  rw [List.append_nil] at below
  rw [chain, below]

theorem chain_further (insideless : Insideless front) (node : Node) (target : Path) (back : List Constraint)
    (override : Option Override) :
    Path.chain ⟨node, front ++ .relation .inside target :: back, override⟩ =
      ⟨node, front ++ .relation .inside target :: back, override⟩ :: target.chain := by
  rw [chain, chainBelow_append insideless, chainBelow]

theorem inside_last (insideless : Insideless constraints) (node : Node) (override : Option Override)
    (ancestor : Path) :
    inside ⟨node, constraints, override⟩ ancestor =
      ⟨node, constraints ++ [.relation .inside ancestor], override⟩ := by
  have first : insideFirst ancestor (constraints ++ []) = none := insideFirst_append insideless ancestor
  rw [List.append_nil] at first
  simp [inside, first]

theorem inside_further (insideless : Insideless front) (node : Node)
    (target : Path) (back : List Constraint) (override : Option Override) (ancestor : Path) :
    Path.inside ⟨node, front ++ .relation .inside target :: back, override⟩ ancestor =
      ⟨node, front ++ .relation .inside (target.inside ancestor) :: back,
        override.map (extendOverride ancestor front.length)⟩ := by
  simp [Path.inside, insideFirst_append insideless, insideFirst]

end Path

end Locator
