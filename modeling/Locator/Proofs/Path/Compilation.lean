import Locator.Proofs.Path.Selection

/-!
# Compilation keeps the meaning

The compiled expression of a path without fragments of text selects what `Path.found` says, by induction on
paths with their constraints and properties. Without adjacency both ways of writing a relation mean the
same, so there the expression selects just what the path describes.
-/

namespace Locator

open Locator.XPath

set_option autoImplicit false

variable {document : Document} {allowed : Relation → Bool}

/-! ## What is selected -/

mutual

theorem Path.query_selects (path : Path) (free : path.uses allowed = true) :
    path.query.Selects document (path.found document) := by
  match path with
  | ⟨node, constraints, override⟩ =>
      simp only [Path.uses, Bool.and_eq_true] at free
      simp only [Path.query, Path.found]
      cases noSet : node.isSet with
      | true =>
          obtain ⟨set, same, selects⟩ := Node.set_selects node free.1 noSet
          simp only [same, if_true]
          exact selects.restrict (conditions_mean constraints free.2)
      | false =>
          have tail := Node.test_keeps noSet (remaining_mean constraints free.2)
          have selects := startWith_selects constraints free.2 tail
            (Path.kind ⟨node, constraints, override⟩)
          simp only [Node.set?_eq_none noSet, Bool.false_eq_true, if_false]
          simpa only [Bool.and_assoc, Bool.and_comm (remainingMet document constraints _)] using selects

theorem Path.step_keeps (path : Path) (free : path.uses allowed = true) :
    path.step.Keeps document (path.kept document) := by
  match path with
  | ⟨node, constraints, override⟩ =>
      simp only [Path.uses, Bool.and_eq_true] at free
      simp only [Path.step, Path.kept]
      cases noSet : node.isSet with
      | true =>
          obtain ⟨set, same, selects⟩ := Node.set_selects node free.1 noSet
          simp only [same]
          exact (selects.restrict (conditions_mean constraints free.2)).member_keeps
      | false =>
          simp only [Node.set?_eq_none noSet]
          exact Node.test_keeps noSet (conditions_mean constraints free.2)

theorem Node.set_selects (node : Node) (free : node.uses allowed = true) (isSet : node.isSet = true) :
    ∃ set, node.set? = some set ∧ set.Selects document (node.matched document) := by
  match node with
  | .element name => exact absurd isSet (by simp [Node.isSet])
  | .any => exact absurd isSet (by simp [Node.isSet])
  | .text content => exact absurd isSet (by simp [Node.isSet])
  | .union left right =>
      simp only [Node.uses, Bool.and_eq_true] at free
      refine ⟨_, rfl, ?_⟩
      exact ((Path.query_selects left free.1).union (Path.query_selects right free.2)).group
  | .occurrence path position =>
      simp only [Node.uses] at free
      exact ⟨_, rfl, (Path.query_selects path free).occurrence position⟩

theorem startWith_selects (constraints : List Constraint) (free : allUse allowed constraints = true)
    {tail : Step} {condition : Address → Bool} (keeps : tail.Keeps document condition)
    (kind : NodeTest) :
    (startWith kind tail constraints).Selects document fun address =>
      condition address && ledTo document kind constraints address := by
  match constraints with
  | [] => simpa [startWith, ledTo] using keeps.anywhere
  | .relation relation target :: others =>
      simp only [allUse, Bool.and_eq_true] at free
      simp only [startWith, ledTo]
      cases leads : relation.leads with
      | true => exact Relation.start_selects leads (Path.query_selects target free.1.2) keeps kind
      | false => exact startWith_selects others free.2 keeps kind
  | .property property :: others =>
      simp only [allUse, Bool.and_eq_true] at free
      exact startWith_selects others free.2 keeps kind

theorem remaining_mean (constraints : List Constraint) (free : allUse allowed constraints = true) :
    AllMean document (remaining constraints) (remainingMet document constraints) := by
  match constraints with
  | [] => exact allMean_nil
  | .relation relation target :: others =>
      simp only [allUse, Bool.and_eq_true] at free
      cases leads : relation.leads with
      | true =>
          have same : remainingMet document (.relation relation target :: others) =
              met document others := by
            funext address
            simp only [remainingMet, leads, if_true]
          simp only [same, remaining, leads, if_true]
          exact conditions_mean others free.2
      | false =>
          have same : remainingMet document (.relation relation target :: others) = fun address =>
              (document.addresses.any fun other =>
                target.kept document other && relation.meets document target.kind address other) &&
                remainingMet document others address := by
            funext address
            simp only [remainingMet, leads, Bool.false_eq_true, if_false]
          simp only [same, remaining, leads, Bool.false_eq_true, if_false]
          have first := relation.condition_means (Path.step_keeps target free.1.2) target.kind
          exact first.allMean_cons (remaining_mean others free.2)
  | .property property :: others =>
      simp only [allUse, Bool.and_eq_true] at free
      exact (Property.conjuncts_mean property free.1).append (remaining_mean others free.2)

theorem conditions_mean (constraints : List Constraint) (free : allUse allowed constraints = true) :
    AllMean document (conditions constraints) (met document constraints) := by
  match constraints with
  | [] => exact allMean_nil
  | .relation relation target :: others =>
      simp only [allUse, Bool.and_eq_true] at free
      have first := relation.condition_means (Path.step_keeps target free.1.2) target.kind
      exact first.allMean_cons (conditions_mean others free.2)
  | .property property :: others =>
      simp only [allUse, Bool.and_eq_true] at free
      exact (Property.conjuncts_mean property free.1).append (conditions_mean others free.2)

theorem Property.conjuncts_mean (property : Property) (free : property.uses allowed = true) :
    AllMean document property.conjuncts (property.met document) := by
  match property with
  | .and left right =>
      simp only [Property.uses, Bool.and_eq_true] at free
      exact (Property.conjuncts_mean left free.1).append (Property.conjuncts_mean right free.2)
  | .test test => exact allMean_singleton test.condition_means
  | .related relation target =>
      simp only [Property.uses, Bool.and_eq_true] at free
      exact allMean_singleton (relation.condition_means (Path.step_keeps target free.2) target.kind)
  | .siblingOf target =>
      simp only [Property.uses] at free
      exact allMean_singleton (siblingCondition_means (Path.step_keeps target free))
  | .occurrences comparison count target =>
      simp only [Property.uses] at free
      exact allMean_singleton (countCondition_means (Path.step_keeps target free) comparison count)
  | .custom fragment phrase => exact absurd free (by simp [Property.uses])
  | .or left right =>
      simp only [Property.uses, Bool.and_eq_true] at free
      have leftMeans := Property.condition_means left free.1
      have rightMeans := Property.condition_means right free.2
      exact allMean_singleton (leftMeans.or rightMeans).group
  | .not inner =>
      simp only [Property.uses] at free
      exact allMean_singleton (Property.condition_means inner free).negate

theorem Property.condition_means (property : Property) (free : property.uses allowed = true) :
    property.condition.Means document (property.met document) := by
  match property with
  | .and left right =>
      simp only [Property.uses, Bool.and_eq_true] at free
      exact ((Property.condition_means left free.1).and (Property.condition_means right free.2)).group
  | .test test => exact test.condition_means
  | .related relation target =>
      simp only [Property.uses, Bool.and_eq_true] at free
      exact relation.condition_means (Path.step_keeps target free.2) target.kind
  | .siblingOf target =>
      simp only [Property.uses] at free
      exact siblingCondition_means (Path.step_keeps target free)
  | .occurrences comparison count target =>
      simp only [Property.uses] at free
      exact countCondition_means (Path.step_keeps target free) comparison count
  | .custom fragment phrase => exact absurd free (by simp [Property.uses])
  | .or left right =>
      simp only [Property.uses, Bool.and_eq_true] at free
      exact ((Property.condition_means left free.1).or (Property.condition_means right free.2)).group
  | .not inner =>
      simp only [Property.uses] at free
      exact (Property.condition_means inner free).negate

end

/-! ## Without adjacency -/

theorem Relation.leadsTo_eq_holds {relation : Relation} (plain : relation.isAdjacent = false)
    (kind : NodeTest) (candidate target : Address) :
    relation.leadsTo document kind candidate target = relation.holds document candidate target := by
  cases relation <;> first | rfl | exact absurd plain (by simp [Relation.isAdjacent])

theorem Relation.meets_eq_holds {relation : Relation} (plain : relation.isAdjacent = false)
    (kind : NodeTest) (candidate target : Address) :
    relation.meets document kind candidate target = relation.holds document candidate target := by
  cases relation <;> first | rfl | exact absurd plain (by simp [Relation.isAdjacent])

mutual

theorem Path.found_eq_describes (path : Path) (plain : path.isPlain = true) :
    path.found document = path.describes document := by
  match path with
  | ⟨node, constraints, override⟩ =>
      simp only [Path.isPlain, Path.uses, Bool.and_eq_true] at plain
      funext address
      simp only [Path.found, Path.describes, Node.matched_eq_admits node plain.1]
      congr 1
      cases node.isSet with
      | true => exact congrFun (met_eq_constraintsHold constraints plain.2) address
      | false => exact ledTo_and_remainingMet constraints plain.2 _ address

theorem Path.kept_eq_describes (path : Path) (plain : path.isPlain = true) :
    path.kept document = path.describes document := by
  match path with
  | ⟨node, constraints, override⟩ =>
      simp only [Path.isPlain, Path.uses, Bool.and_eq_true] at plain
      funext address
      simp only [Path.kept, Path.describes, Node.matched_eq_admits node plain.1,
        met_eq_constraintsHold constraints plain.2]

theorem Node.matched_eq_admits (node : Node)
    (plain : node.uses (fun relation => !relation.isAdjacent) = true) :
    node.matched document = node.admits document := by
  funext address
  match node with
  | .element name => rfl
  | .any => rfl
  | .text content => rfl
  | .union left right =>
      simp only [Node.uses, Bool.and_eq_true] at plain
      simp only [Node.matched, Node.admits, Path.found_eq_describes left plain.1,
        Path.found_eq_describes right plain.2]
  | .occurrence path position =>
      simp only [Node.uses] at plain
      simp only [Node.matched, Node.admits, Path.found_eq_describes path plain]

/-- It does not matter which relation starts the location path. -/
theorem ledTo_and_remainingMet (constraints : List Constraint)
    (plain : allUse (fun relation => !relation.isAdjacent) constraints = true) (kind : NodeTest)
    (address : Address) :
    (ledTo document kind constraints address && remainingMet document constraints address) =
      constraintsHold document constraints address := by
  match constraints with
  | [] => rfl
  | .relation relation target :: others =>
      simp only [allUse, Bool.and_eq_true, Bool.not_eq_true'] at plain
      simp only [ledTo, remainingMet, constraintsHold]
      cases relation.leads with
      | true =>
          simp only [if_true, Path.found_eq_describes target plain.1.2,
            Relation.leadsTo_eq_holds plain.1.1, met_eq_constraintsHold others plain.2]
      | false =>
          simp only [Bool.false_eq_true, if_false, Path.kept_eq_describes target plain.1.2,
            Relation.meets_eq_holds plain.1.1, ← ledTo_and_remainingMet others plain.2 kind address]
          exact Bool.and_left_comm _ _ _
  | .property property :: others =>
      simp only [allUse, Bool.and_eq_true] at plain
      simp only [ledTo, remainingMet, constraintsHold, Property.met_eq_holds property plain.1,
        ← ledTo_and_remainingMet others plain.2 kind address]
      exact Bool.and_left_comm _ _ _

theorem met_eq_constraintsHold (constraints : List Constraint)
    (plain : allUse (fun relation => !relation.isAdjacent) constraints = true) :
    met document constraints = constraintsHold document constraints := by
  funext address
  match constraints with
  | [] => rfl
  | .relation relation target :: others =>
      simp only [allUse, Bool.and_eq_true, Bool.not_eq_true'] at plain
      simp only [met, constraintsHold, Path.kept_eq_describes target plain.1.2,
        Relation.meets_eq_holds plain.1.1, met_eq_constraintsHold others plain.2]
  | .property property :: others =>
      simp only [allUse, Bool.and_eq_true] at plain
      simp only [met, constraintsHold, Property.met_eq_holds property plain.1,
        met_eq_constraintsHold others plain.2]

theorem Property.met_eq_holds (property : Property)
    (plain : property.uses (fun relation => !relation.isAdjacent) = true) :
    property.met document = property.holds document := by
  funext address
  match property with
  | .test test => rfl
  | .related relation target =>
      simp only [Property.uses, Bool.and_eq_true, Bool.not_eq_true'] at plain
      simp only [Property.met, Property.holds, Path.kept_eq_describes target plain.2,
        Relation.meets_eq_holds plain.1]
  | .siblingOf target =>
      simp only [Property.uses] at plain
      simp only [Property.met, Property.holds, Path.kept_eq_describes target plain]
  | .occurrences comparison count target =>
      simp only [Property.uses] at plain
      simp only [Property.met, Property.holds, Path.kept_eq_describes target plain]
  | .custom fragment phrase => rfl
  | .and left right =>
      simp only [Property.uses, Bool.and_eq_true] at plain
      simp only [Property.met, Property.holds, Property.met_eq_holds left plain.1,
        Property.met_eq_holds right plain.2]
  | .or left right =>
      simp only [Property.uses, Bool.and_eq_true] at plain
      simp only [Property.met, Property.holds, Property.met_eq_holds left plain.1,
        Property.met_eq_holds right plain.2]
  | .not inner =>
      simp only [Property.uses] at plain
      simp only [Property.met, Property.holds, Property.met_eq_holds inner plain]

end

/-- A path without fragments of text and without adjacency selects the nodes that it describes. -/
theorem Path.query_selects_described {path : Path} (plain : path.isPlain = true) :
    path.query.Selects document (path.describes document) := by
  rw [← Path.found_eq_describes path plain]
  exact Path.query_selects path plain

theorem XPath.Expr.Selects.select {expression : Expr} {condition : Address → Bool}
    (selects : expression.Selects document condition) :
    expression.select document = some ((document.addresses.filter condition).map .node) := by
  rw [Expr.select, selects.eval, document.filter_sites_lift condition selects.outside]
  rfl

end Locator
