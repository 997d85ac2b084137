import Locator.Path.Build
import Locator.Proofs.Path.WellFormed
import Locator.Proofs.XPath.Fragments

/-!
# Fragments of text in paths

A path may hold fragments of text among its properties, at any depth. When each of them is an operand on its
own, so is every expression that the path becomes. Its conditions are single operands also between connectives,
except for those that are fragments themselves.
-/

namespace Locator

open Locator.XPath

set_option autoImplicit false

mutual

/-- The fragments of text in a path. -/
def Path.fragments : Path → List String
  | ⟨node, constraints, _⟩ => node.fragments ++ constraintFragments constraints

def Node.fragments : Node → List String
  | .element _ | .any | .text _ => []
  | .union left right => left.fragments ++ right.fragments
  | .occurrence path _ => path.fragments

def constraintFragments : List Constraint → List String
  | [] => []
  | .property property :: others => property.fragments ++ constraintFragments others
  | .relation _ target :: others => target.fragments ++ constraintFragments others

def Property.fragments : Property → List String
  | .test _ => []
  | .related _ target | .siblingOf target | .occurrences _ _ target => target.fragments
  | .custom fragment _ => [fragment]
  | .and left right | .or left right => left.fragments ++ right.fragments
  | .not inner => inner.fragments

end

/-! ## Parts of expressions -/

/-- The condition is a single operand between connectives, unless it is a fragment of text. -/
structure XPath.Expr.Joins (condition : Expr) : Prop where
  contained : condition.Contained []
  operand : (∀ text, condition ≠ .raw text) → condition.Contained ["or", "and"]

theorem joins_of_contained {condition : Expr} (contained : condition.Contained ["or", "and"]) :
    condition.Joins :=
  ⟨contained.fewer (List.nil_subset _), fun _ => contained⟩

theorem joins_raw {text : String} (contained : Contained [] text) : (Expr.raw text).Joins :=
  ⟨contained, fun noRaw => absurd rfl (noRaw text)⟩

theorem joins_singleton {condition : Expr} (joins : condition.Joins) :
    ∀ other ∈ [condition], other.Joins :=
  fun _ member => List.mem_singleton.mp member ▸ joins

theorem XPath.Step.Contained.along {step : Step} (contained : step.Contained) (axis : Axis) :
    (step.along axis).Contained := by
  rcases step with ⟨_, test, predicates⟩
  exact contained

theorem Path.kind_fits (path : Path) : path.kind.fits = true := by
  unfold Path.kind
  split <;> rfl

section Parts

variable {barred : List String}

theorem contained_restrict {set : Expr} (contained : set.Contained barred) {conditions : List Expr}
    (joins : ∀ condition ∈ conditions, condition.Joins) : (set.restrict conditions).Contained barred := by
  have all := contained_conjunction fun condition member => (joins condition member).contained
  have predicates := (allContained_iff _).mp all
  unfold Expr.restrict
  unfold Expr.conjunction at predicates ⊢
  generalize Expr.chain .and conditions = joined at predicates ⊢
  cases joined with
  | none => exact contained
  | some predicate => exact ⟨contained, predicates predicate (by simp)⟩

theorem Relation.condition_contained (relation : Relation) {kind : NodeTest} (fits : kind.fits = true)
    {target : Step} (contained : target.Contained) :
    (relation.condition kind target).Contained barred := by
  have nearest (axis : Axis) :
      Step.Contained
        { axis := some axis, test := kind, predicates := [.number 1, .step (target.along .self)] } :=
    ⟨fits, trivial, contained.along .self, trivial⟩
  cases relation with
  | inside => exact contained.along .ancestor
  | containing => exact ⟨trivial, contained⟩
  | parentOf => exact contained.along .child
  | childOf => exact contained.along .parent
  | after => exact contained.along .preceding
  | afterSibling => exact contained.along .precedingSibling
  | before => exact contained.along .following
  | beforeSibling => exact contained.along .followingSibling
  | immediatelyBefore => exact nearest .following
  | immediatelyBeforeSibling => exact nearest .followingSibling
  | immediatelyAfter => exact nearest .preceding
  | immediatelyAfterSibling => exact nearest .precedingSibling

theorem Relation.start_contained (relation : Relation) {targets : Expr}
    (targetsContained : targets.Contained barred) {kind : NodeTest} (fits : kind.fits = true)
    {tail : Step} (contained : tail.Contained) :
    (relation.start targets kind tail).Contained barred := by
  have nearest (axis : Axis) :
      (Expr.walk (.walk targets { axis := some axis, test := kind, predicates := [.number 1] })
        (tail.along .self)).Contained barred :=
    ⟨⟨targetsContained, fits, trivial, trivial⟩, contained.along .self⟩
  cases relation with
  | inside => exact ⟨targetsContained, contained⟩
  | childOf => exact ⟨targetsContained, contained⟩
  | containing => exact contained
  | parentOf => exact contained
  | after => exact ⟨targetsContained, contained.along .following⟩
  | afterSibling => exact ⟨targetsContained, contained.along .followingSibling⟩
  | before => exact ⟨targetsContained, contained.along .preceding⟩
  | beforeSibling => exact ⟨targetsContained, contained.along .precedingSibling⟩
  | immediatelyBefore => exact nearest .preceding
  | immediatelyBeforeSibling => exact nearest .precedingSibling
  | immediatelyAfter => exact nearest .following
  | immediatelyAfterSibling => exact nearest .followingSibling

end Parts

theorem memberStep_contained {set : Expr} (contained : set.Contained []) : (memberStep set).Contained := by
  have united : (Expr.binary .union .context set).Contained [] := ⟨by simp, trivial, contained⟩
  exact ⟨rfl, ⟨by simp, ⟨united, trivial⟩, contained, trivial⟩, trivial⟩

theorem siblingCondition_joins {target : Step} (contained : target.Contained) :
    (siblingCondition target).Joins := by
  have either : (Expr.binary .or (.step (target.along .precedingSibling))
      (.step (target.along .followingSibling))).Contained [] :=
    ⟨by simp, contained.along .precedingSibling, contained.along .followingSibling⟩
  exact joins_of_contained either

theorem countCondition_joins (comparison : Comparison) (count : Nat) {target : Step}
    (contained : target.Contained) : (countCondition comparison count target).Joins := by
  have counted : (Expr.descend .context target).Contained [] := ⟨trivial, contained⟩
  refine joins_of_contained ⟨?_, ⟨counted, trivial⟩, trivial⟩
  cases comparison <;> decide

theorem Test.condition_joins (test : Test) : test.condition.Joins := by
  have draws := test.condition_draws (List.subset_append_left fixedLeaves test.leaves)
    (List.subset_append_right fixedLeaves test.leaves)
  apply joins_of_contained
  apply Expr.contained_of_fits _ draws.fits
  intro operator weak
  have weakest : operator.level.rank < Level.equality.rank := by
    cases operator <;> first | decide | exact absurd weak (by decide)
  exact Nat.lt_of_lt_of_le weakest draws.binds

theorem Node.test_joins (node : Node) :
    node.test.1.fits = true ∧ ∀ condition ∈ node.test.2, condition.Joins := by
  cases node with
  | element name =>
      simp only [Node.test]
      split
      · rename_i plain
        exact ⟨plain, by simp⟩
      · exact ⟨rfl, joins_singleton (joins_of_contained ⟨by decide, trivial, trivial⟩)⟩
  | text content => exact ⟨rfl, joins_singleton (joins_of_contained ⟨by decide, ⟨trivial, trivial⟩, trivial⟩)⟩
  | any => exact ⟨rfl, by simp [Node.test]⟩
  | union left right => exact ⟨rfl, by simp [Node.test]⟩
  | occurrence path position => exact ⟨rfl, by simp [Node.test]⟩

theorem Node.test_contained (node : Node) {conditions : List Expr}
    (joins : ∀ condition ∈ conditions, condition.Joins) :
    Step.Contained
      { axis := none
        test := node.test.1
        predicates := Expr.conjunction (node.test.2 ++ conditions) } := by
  obtain ⟨fits, own⟩ := node.test_joins
  refine ⟨fits, contained_conjunction ?_⟩
  exact List.forall_mem_append.mpr ⟨fun condition member => (own condition member).contained,
    fun condition member => (joins condition member).contained⟩

/-! ## Paths and properties -/

mutual

theorem Path.query_contained (path : Path) (contained : ∀ fragment ∈ path.fragments, Contained [] fragment)
    (barred : List String) : path.query.Contained barred := by
  match path with
  | ⟨node, constraints, override⟩ =>
      obtain ⟨nodeContained, constraintsContained⟩ := List.forall_mem_append.mp contained
      simp only [Path.query]
      cases isSet : node.set? with
      | some set =>
          have joins := conditions_join constraints constraintsContained
          exact contained_restrict (Node.set_contained node nodeContained barred isSet) joins
      | none =>
          have tail := node.test_contained (remaining_join constraints constraintsContained)
          exact startWith_contained constraints constraintsContained barred (Path.kind_fits _) tail

theorem Path.step_contained (path : Path) (contained : ∀ fragment ∈ path.fragments, Contained [] fragment) :
    path.step.Contained := by
  match path with
  | ⟨node, constraints, override⟩ =>
      obtain ⟨nodeContained, constraintsContained⟩ := List.forall_mem_append.mp contained
      have joins := conditions_join constraints constraintsContained
      simp only [Path.step]
      cases isSet : node.set? with
      | some set =>
          have setContained := Node.set_contained node nodeContained [] isSet
          exact memberStep_contained (contained_restrict setContained joins)
      | none => exact node.test_contained joins

theorem Node.set_contained (node : Node) (contained : ∀ fragment ∈ node.fragments, Contained [] fragment)
    (barred : List String) {set : Expr} (isSet : node.set? = some set) : set.Contained barred := by
  match node with
  | .element _ | .any | .text _ => exact absurd isSet (by simp [Node.set?])
  | .union left right =>
      obtain ⟨leftContained, rightContained⟩ := List.forall_mem_append.mp contained
      obtain rfl := Option.some.inj isSet
      exact ⟨by simp, Path.query_contained left leftContained [], Path.query_contained right rightContained []⟩
  | .occurrence path position =>
      obtain rfl := Option.some.inj isSet
      refine ⟨Path.query_contained path contained [], ?_⟩
      cases position <;> trivial

theorem startWith_contained (constraints : List Constraint)
    (contained : ∀ fragment ∈ constraintFragments constraints, Contained [] fragment)
    (barred : List String) {kind : NodeTest} (fits : kind.fits = true) {tail : Step}
    (tailContained : tail.Contained) : (startWith kind tail constraints).Contained barred := by
  match constraints with
  | [] => exact tailContained
  | .relation relation target :: others =>
      obtain ⟨targetContained, othersContained⟩ := List.forall_mem_append.mp contained
      simp only [startWith]
      split
      · exact relation.start_contained (Path.query_contained target targetContained barred) fits tailContained
      · exact startWith_contained others othersContained barred fits tailContained
  | .property property :: others =>
      exact startWith_contained others (List.forall_mem_append.mp contained).2 barred fits tailContained

theorem remaining_join (constraints : List Constraint)
    (contained : ∀ fragment ∈ constraintFragments constraints, Contained [] fragment) :
    ∀ condition ∈ remaining constraints, condition.Joins := by
  match constraints with
  | [] => simp [remaining]
  | .relation relation target :: others =>
      obtain ⟨targetContained, othersContained⟩ := List.forall_mem_append.mp contained
      have step := Path.step_contained target targetContained
      simp only [remaining]
      split
      · exact conditions_join others othersContained
      · exact List.forall_mem_cons.mpr
          ⟨joins_of_contained (relation.condition_contained target.kind_fits step),
            remaining_join others othersContained⟩
  | .property property :: others =>
      obtain ⟨propertyContained, othersContained⟩ := List.forall_mem_append.mp contained
      exact List.forall_mem_append.mpr
        ⟨Property.conjuncts_join property propertyContained, remaining_join others othersContained⟩

theorem conditions_join (constraints : List Constraint)
    (contained : ∀ fragment ∈ constraintFragments constraints, Contained [] fragment) :
    ∀ condition ∈ conditions constraints, condition.Joins := by
  match constraints with
  | [] => simp [conditions]
  | .relation relation target :: others =>
      obtain ⟨targetContained, othersContained⟩ := List.forall_mem_append.mp contained
      have step := Path.step_contained target targetContained
      exact List.forall_mem_cons.mpr
        ⟨joins_of_contained (relation.condition_contained target.kind_fits step),
          conditions_join others othersContained⟩
  | .property property :: others =>
      obtain ⟨propertyContained, othersContained⟩ := List.forall_mem_append.mp contained
      exact List.forall_mem_append.mpr
        ⟨Property.conjuncts_join property propertyContained, conditions_join others othersContained⟩

theorem Property.conjuncts_join (property : Property)
    (contained : ∀ fragment ∈ property.fragments, Contained [] fragment) :
    ∀ condition ∈ property.conjuncts, condition.Joins := by
  match property with
  | .and left right =>
      obtain ⟨leftContained, rightContained⟩ := List.forall_mem_append.mp contained
      exact List.forall_mem_append.mpr
        ⟨Property.conjuncts_join left leftContained, Property.conjuncts_join right rightContained⟩
  | .test test => exact joins_singleton test.condition_joins
  | .related relation target =>
      have step := Path.step_contained target contained
      exact joins_singleton (joins_of_contained (relation.condition_contained target.kind_fits step))
  | .siblingOf target => exact joins_singleton (siblingCondition_joins (Path.step_contained target contained))
  | .occurrences comparison count target =>
      exact joins_singleton (countCondition_joins comparison count (Path.step_contained target contained))
  | .custom fragment phrase => exact joins_singleton (joins_raw (contained fragment (by simp [Property.fragments])))
  | .or left right =>
      obtain ⟨leftContained, rightContained⟩ := List.forall_mem_append.mp contained
      have leftJoins := Property.condition_joins left leftContained
      have rightJoins := Property.condition_joins right rightContained
      exact joins_singleton (joins_of_contained ⟨by simp, leftJoins.contained, rightJoins.contained⟩)
  | .not inner =>
      have joins := Property.condition_joins inner contained
      exact joins_singleton (joins_of_contained ⟨joins.contained, trivial⟩)

theorem Property.condition_joins (property : Property)
    (contained : ∀ fragment ∈ property.fragments, Contained [] fragment) : property.condition.Joins := by
  match property with
  | .and left right =>
      obtain ⟨leftContained, rightContained⟩ := List.forall_mem_append.mp contained
      have leftJoins := Property.condition_joins left leftContained
      have rightJoins := Property.condition_joins right rightContained
      exact joins_of_contained ⟨by simp, leftJoins.contained, rightJoins.contained⟩
  | .test test => exact test.condition_joins
  | .related relation target =>
      exact joins_of_contained (relation.condition_contained target.kind_fits (Path.step_contained target contained))
  | .siblingOf target => exact siblingCondition_joins (Path.step_contained target contained)
  | .occurrences comparison count target =>
      exact countCondition_joins comparison count (Path.step_contained target contained)
  | .custom fragment phrase => exact joins_raw (contained fragment (by simp [Property.fragments]))
  | .or left right =>
      obtain ⟨leftContained, rightContained⟩ := List.forall_mem_append.mp contained
      have leftJoins := Property.condition_joins left leftContained
      have rightJoins := Property.condition_joins right rightContained
      exact joins_of_contained ⟨by simp, leftJoins.contained, rightJoins.contained⟩
  | .not inner =>
      have joins := Property.condition_joins inner contained
      exact joins_of_contained ⟨joins.contained, trivial⟩

end

end Locator
