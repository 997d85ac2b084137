import Locator.Proofs.Path.Exchange

/-!
# Relations as constraints and as properties

A relation to a target can be added to a path as a constraint or as a property of its nodes. As a step both are
the same. As an expression they differ only where the relation would become the start of the location path: where
it leads from the target to the candidate and no relation before it does.
-/

namespace Locator

open Locator.XPath

set_option autoImplicit false

/-- True of the constraints that a location path can start with. -/
def Constraint.leads : Constraint → Bool
  | .relation lead _ => lead.leads
  | .property _ => false

section Lists

variable {constraints : List Constraint} {relation : Relation} {target : Path}

theorem conditions_related : conditions (constraints ++ [.relation relation target]) =
    conditions (constraints ++ [.property (.related relation target)]) := by
  simp [conditions_append, conditions, Property.conjuncts]

/-- Behind a leading relation every constraint becomes a condition, and so does one that leads nowhere. -/
theorem settled_related (target : Path)
    (settled : relation.leads = true → constraints.any Constraint.leads = true) :
    remaining (constraints ++ [.relation relation target]) =
        remaining (constraints ++ [.property (.related relation target)]) ∧
      ∀ kind tail, startWith kind tail (constraints ++ [.relation relation target]) =
        startWith kind tail (constraints ++ [.property (.related relation target)]) := by
  induction constraints with
  | nil =>
      have stays : relation.leads = false := by simpa using settled
      simp [remaining, startWith, Property.conjuncts, stays]
  | cons first others ih =>
      cases first with
      | property property =>
          obtain ⟨rest, start⟩ := ih (by simpa [Constraint.leads] using settled)
          simp only [List.cons_append, remaining, startWith, rest, start, implies_true, and_self]
      | relation lead leadTarget =>
          cases leads : lead.leads with
          | true =>
              simp only [List.cons_append, remaining, startWith, leads, if_true, conditions_related,
                implies_true, and_self]
          | false =>
              obtain ⟨rest, start⟩ := ih (by simpa [Constraint.leads, leads] using settled)
              simp only [List.cons_append, remaining, startWith, leads, Bool.false_eq_true, if_false, rest,
                start, implies_true, and_self]

end Lists

namespace Path

theorem step_related (path : Path) (relation : Relation) (target : Path) :
    (path.relate relation target).step = (path.and (.related relation target)).step := by
  rcases path with ⟨node, constraints, override⟩
  simp only [relate, constrain, Path.and, that, List.map_cons, List.map_nil, step, conditions_related]

theorem interchangeable_related {path : Path} {relation : Relation}
    (settled : path.node.isSet = true ∨
      (relation.leads = true → path.constraints.any Constraint.leads = true)) (target : Path) :
    (path.relate relation target).Interchangeable (path.and (.related relation target)) := by
  refine ⟨?_, rfl, path.step_related relation target⟩
  rcases path with ⟨node, constraints, override⟩
  simp only [relate, constrain, Path.and, that, List.map_cons, List.map_nil, query, kind_mk, conditions_related]
  cases isSet : node.set? with
  | some set => rfl
  | none =>
      have noSet : node.isSet = false := by cases node <;> simp_all [Node.set?, Node.isSet]
      have leads : relation.leads = true → constraints.any Constraint.leads = true := by
        rcases settled with set | leads
        · rw [noSet] at set
          exact absurd set Bool.false_ne_true
        · exact leads
      obtain ⟨rest, start⟩ := settled_related target leads
      simp only [rest, start]

end Path

/-- A relation that does not lead from the target to the candidate compiles to the same as its property. For every
relation, other than an `inside` that refines an earlier one, the relation and its property give the same step,
and whatever is compiled from the step; they also give the same expression when the path is a set or has
a leading relation already. -/
theorem relations_agree_with_properties (path target : Path) :
    (path.containing target).AskAlike (path.and (.contains target)) ∧
    (path.parentOf target).AskAlike (path.and (.hasChild target)) ∧
    ∀ relation : Relation, (relation = .inside → Insideless path.constraints) →
      (relation.combine path target).step.print = (path.and (.related relation target)).step.print ∧
      (∀ aim : Path → Property, Property.Aims aim →
        (aim (relation.combine path target)).toXPath = (aim (path.and (.related relation target))).toXPath) ∧
      (path.node.isSet = true ∨ path.constraints.any Constraint.leads = true →
        (relation.combine path target).AskAlike (path.and (.related relation target))) := by
  refine ⟨?_, ?_, ?_⟩
  · exact (Path.interchangeable_related (.inr (by simp [Relation.leads])) target).askAlike
  · exact (Path.interchangeable_related (.inr (by simp [Relation.leads])) target).askAlike
  · intro relation fresh
    have kind : (path.relate relation target).kind = (path.and (.related relation target)).kind := rfl
    have step := path.step_related relation target
    rw [Relation.combine_eq_relate fresh]
    refine ⟨congrArg Step.print step, ?_, ?_⟩
    · intro aim aims
      exact congrArg Expr.print (Property.Aims.condition_eq kind step aims)
    · intro settled
      apply Path.Interchangeable.askAlike
      apply Path.interchangeable_related
      rcases settled with set | leads
      · exact .inl set
      · exact .inr fun _ => leads

/-- The expression starts with the division already, so the form becomes a condition either way. -/
theorem relations_agree_with_properties_led :
    Insideless ((Path.tag "span").after (.tag "div")).constraints ∧
    ((Path.tag "span").after (.tag "div")).constraints.any Constraint.leads = true ∧
    (Relation.inside.combine ((Path.tag "span").after (.tag "div")) (.tag "form")).AskAlike
      (((Path.tag "span").after (.tag "div")).and (.hasAncestor (.tag "form"))) ∧
    Property.Aims (.occurrences .atLeast 2) ∧
    (Property.occurrences .atLeast 2 (Relation.inside.combine (.tag "span") (.tag "form"))).toXPath =
      (Property.occurrences .atLeast 2 ((Path.tag "span").and (.hasAncestor (.tag "form")))).toXPath ∧
    (((Path.tag "span").after (.tag "div")).inside (.tag "form")).toXPath =
      "//div/following::span[ancestor::form]" := by
  have insideless : Insideless ((Path.tag "span").after (.tag "div")).constraints :=
    List.forall_mem_singleton.mpr rfl
  have bare : Insideless (Path.tag "span").constraints := fun _ member => absurd member List.not_mem_nil
  obtain ⟨-, -, agree⟩ := relations_agree_with_properties ((Path.tag "span").after (.tag "div")) (.tag "form")
  obtain ⟨-, -, agreeBare⟩ := relations_agree_with_properties (.tag "span") (.tag "form")
  exact ⟨insideless, rfl, (agree .inside fun _ => insideless).2.2 (.inr rfl), .occurrences .atLeast 2,
    (agreeBare .inside fun _ => bare).2.1 _ (.occurrences .atLeast 2), by decide⟩

/-- Where no relation leads yet, the constraint becomes the start of the expression and the property does not. -/
example :
    ((Path.tag "span").inside (.tag "form")).toXPath = "//form//span" ∧
    ((Path.tag "span").and (.hasAncestor (.tag "form"))).toXPath = "//span[ancestor::form]" := by
  decide

end Locator
