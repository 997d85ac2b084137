import Locator.Proofs.Path.Conjunction
import Locator.Proofs.Path.Terms

/-!
# Paths in the place of others

Where a path is a part of another one, as the target of a relation or of a property, only its expression and its
step come into what is compiled. A path with the same two can take its place.
-/

namespace Locator

open Locator.XPath

set_option autoImplicit false

/-- The ways to make a property of a node out of a path. -/
inductive Property.Aims : (Path → Property) → Prop where
  | related (relation : Relation) : Aims (.related relation)
  | siblingOf : Aims .siblingOf
  | occurrences (comparison : Comparison) (count : Nat) : Aims (.occurrences comparison count)

section Target

variable {target other : Path} (same : target.Interchangeable other)
include same

theorem conditions_exchange (front back : List Constraint) (relation : Relation) :
    conditions (front ++ .relation relation target :: back) =
      conditions (front ++ .relation relation other :: back) := by
  simp only [conditions_append, conditions, same.kind, same.step]

theorem remaining_exchange (front back : List Constraint) (relation : Relation) :
    remaining (front ++ .relation relation target :: back) =
      remaining (front ++ .relation relation other :: back) := by
  induction front with
  | nil => simp only [List.nil_append, remaining, same.kind, same.step]
  | cons first front ih =>
      cases first with
      | property property => simp only [List.cons_append, remaining, ih]
      | relation lead leadTarget =>
          simp only [List.cons_append, remaining, ih, conditions_exchange same front back relation]

theorem startWith_exchange (kind : NodeTest) (tail : Step) (front back : List Constraint)
    (relation : Relation) :
    startWith kind tail (front ++ .relation relation target :: back) =
      startWith kind tail (front ++ .relation relation other :: back) := by
  induction front with
  | nil => simp only [List.nil_append, startWith, same.query]
  | cons first front ih => cases first <;> simp only [List.cons_append, startWith, ih]

theorem interchangeable_exchange (node : Node) (front back : List Constraint) (relation : Relation)
    (override override' : Option Override) :
    Path.Interchangeable ⟨node, front ++ .relation relation target :: back, override⟩
      ⟨node, front ++ .relation relation other :: back, override'⟩ := by
  constructor
  · simp only [Path.query, kind_mk, conditions_exchange same front back relation,
      remaining_exchange same front back relation, startWith_exchange same _ _ front back relation]
  · rfl
  · simp only [Path.step, conditions_exchange same front back relation]

/-- Also where the path becomes the outermost ancestor of another one. -/
theorem interchangeable_inside (path : Path) : (path.inside target).Interchangeable (path.inside other) := by
  induction path using Path.chain_induction with
  | last node constraints override insideless =>
      rw [Path.inside_last insideless, Path.inside_last insideless]
      exact interchangeable_exchange same node constraints [] .inside override override
  | further node front inner back override insideless ih =>
      rw [Path.inside_further insideless, Path.inside_further insideless]
      exact interchangeable_exchange ih node front back .inside _ _

theorem interchangeable_combine (path : Path) (relation : Relation) :
    (relation.combine path target).Interchangeable (relation.combine path other) := by
  rcases path with ⟨node, constraints, override⟩
  cases relation with
  | inside => exact interchangeable_inside same ⟨node, constraints, override⟩
  | _ => exact interchangeable_exchange same node constraints [] _ override override

end Target

section Aims

variable {target other : Path} (kind : target.kind = other.kind) (step : target.step = other.step)
  {aim : Path → Property} (aims : Property.Aims aim)
include kind step aims

theorem Property.Aims.condition_eq : (aim target).condition = (aim other).condition := by
  cases aims with
  | related relation => simp only [Property.condition, kind, step]
  | siblingOf => simp only [Property.condition, step]
  | occurrences comparison count => simp only [Property.condition, step]

theorem Property.Aims.conjuncts_eq : (aim target).conjuncts = (aim other).conjuncts := by
  cases aims with
  | related relation => simp only [Property.conjuncts, kind, step]
  | siblingOf => simp only [Property.conjuncts, step]
  | occurrences comparison count => simp only [Property.conjuncts, step]

end Aims

/-- Properties come into what is compiled by the conditions that they put into a predicate. -/
theorem interchangeable_that (path : Path) {properties others : List Property}
    (same : properties.flatMap Property.conjuncts = others.flatMap Property.conjuncts) :
    (path.that properties).Interchangeable (path.that others) := by
  rcases path with ⟨node, constraints, override⟩
  constructor
  · simp only [Path.that, Path.query, kind_mk, conditions_append, conditions_properties, remaining_append,
      startWith_append, same]
  · rfl
  · simp only [Path.that, Path.step, conditions_append, conditions_properties, same]

theorem interchangeable_aimed (path : Path) {target other : Path} (same : target.Interchangeable other)
    {aim : Path → Property} (aims : Property.Aims aim) :
    (path.and (aim target)).Interchangeable (path.and (aim other)) := by
  apply interchangeable_that
  rw [List.flatMap_singleton, List.flatMap_singleton, Property.Aims.conjuncts_eq same.kind same.step aims]

end Locator
