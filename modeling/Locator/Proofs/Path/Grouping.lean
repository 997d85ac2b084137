import Locator.Proofs.Path.Exchange

/-!
# Conjunctions taken apart

How properties are grouped by `and` does not come into what is compiled, only which other properties there are
and in which order. They stand side by side in the predicate at the end, and a new property goes to its end.
-/

namespace Locator

open Locator.Text Locator.XPath

set_option autoImplicit false

/-- The properties that a conjunction is made of, from left to right. Any other property is its only part. -/
def Property.parts : Property → List Property
  | .and left right => left.parts ++ right.parts
  | .test leaf => [.test leaf]
  | .related relation target => [.related relation target]
  | .siblingOf target => [.siblingOf target]
  | .occurrences comparison count target => [.occurrences comparison count target]
  | .custom fragment phrase => [.custom fragment phrase]
  | .or left right => [.or left right]
  | .not inner => [.not inner]

theorem Property.conjuncts_eq_map_parts (property : Property) :
    property.conjuncts = property.parts.map Property.condition := by
  match property with
  | .and left right =>
      rw [conjuncts, parts, List.map_append, conjuncts_eq_map_parts left, conjuncts_eq_map_parts right]
  | .test _ | .related _ _ | .siblingOf _ | .occurrences _ _ _ | .custom _ _ | .or _ _ | .not _ => rfl

theorem conjuncts_of_parts (properties : List Property) :
    properties.flatMap Property.conjuncts = (properties.flatMap Property.parts).map Property.condition := by
  induction properties with
  | nil => rfl
  | cons property others ih =>
      rw [List.flatMap_cons, List.flatMap_cons, List.map_append, property.conjuncts_eq_map_parts, ih]

/-! ## The predicate as text -/

/-- The predicate with the conditions joined by `and`; no predicate at all without conditions. -/
def bracketed : List String → String
  | [] => ""
  | first :: others => "[" ++ join " and " (first :: others) ++ "]"

theorem print_foldl_and (first : Expr) (others : List Expr) :
    (others.foldl (.binary .and) first).print = join " and " (first.print :: others.map Expr.print) := by
  induction others generalizing first with
  | nil => rfl
  | cons next others ih =>
      have pair : (Expr.binary .and first next).print = first.print ++ " and " ++ next.print := by
        simp [Expr.print, Operator.printAfter, Operator.print]
      rw [List.foldl_cons, ih, pair]
      cases others <;> simp [join, String.append_assoc]

theorem print_conjunction (conditions : List Expr) :
    printPredicates (Expr.conjunction conditions) = bracketed (conditions.map Expr.print) := by
  cases conditions with
  | nil => rfl
  | cons first others =>
      simp [Expr.conjunction, Expr.chain, printPredicates, bracketed, print_foldl_and]

theorem Path.toXPath_eq (path : Path) :
    path.toXPath = path.location.print ++ bracketed (path.block.map Expr.print) := by
  rw [path.print_query, print_conjunction]

/-- Two lists of properties that are the same when conjunctions are taken apart compile to the same, on their own
and as part of another path or property. A property that is added only puts its conditions at the end of the
predicate that the path has, or opens one, and nothing before the predicate changes. -/
theorem conjunctions_taken_apart (path : Path) :
    (∀ properties others : List Property,
      properties.flatMap Property.parts = others.flatMap Property.parts →
        (path.that properties).AskAlike (path.that others) ∧
        (∀ (outer : Path) (relation : Relation),
          (relation.combine outer (path.that properties)).AskAlike
            (relation.combine outer (path.that others))) ∧
        ∀ aim : Path → Property, Property.Aims aim →
          (aim (path.that properties)).toXPath = (aim (path.that others)).toXPath ∧
          ∀ outer : Path, (outer.and (aim (path.that properties))).AskAlike
            (outer.and (aim (path.that others)))) ∧
    path.toXPath = path.location.print ++ bracketed (path.block.map Expr.print) ∧
    ∀ property : Property, (path.and property).toXPath =
      path.location.print ++ bracketed (path.block.map Expr.print ++ property.parts.map Property.toXPath) := by
  refine ⟨?_, path.toXPath_eq, ?_⟩
  · intro properties others same
    have alike : (path.that properties).Interchangeable (path.that others) := by
      apply interchangeable_that
      rw [conjuncts_of_parts, conjuncts_of_parts, same]
    refine ⟨alike.askAlike, ?_, ?_⟩
    · intro outer relation
      exact (interchangeable_combine alike outer relation).askAlike
    · intro aim aims
      refine ⟨congrArg Expr.print (Property.Aims.condition_eq alike.kind alike.step aims), ?_⟩
      intro outer
      exact (interchangeable_aimed outer alike aims).askAlike
  · intro property
    have conditions : (path.and property).block = path.block ++ property.parts.map Property.condition := by
      rw [Path.and, Path.block_that, List.flatMap_singleton, property.conjuncts_eq_map_parts]
    have location : (path.and property).location = path.location := path.location_that [property]
    rw [Path.toXPath_eq, conditions, location, List.map_append, List.map_map]
    rfl

/-- Three properties of an item, grouped in two ways, on their own and as a target. -/
theorem conjunctions_taken_apart_item :
    [Property.and (.and .isLastSibling (.hasId "a")) .hasChildren].flatMap Property.parts =
      [Property.isLastSibling, .and (.hasId "a") .hasChildren].flatMap Property.parts ∧
    (((Path.tag "li").inside (.tag "ul")).that
      [.and (.and .isLastSibling (.hasId "a")) .hasChildren]).AskAlike
        (((Path.tag "li").inside (.tag "ul")).that [.isLastSibling, .and (.hasId "a") .hasChildren]) ∧
    (Relation.inside.combine ((Path.tag "input").inside (.tag "p")) (((Path.tag "li").inside (.tag "ul")).that
      [.and (.and .isLastSibling (.hasId "a")) .hasChildren])).AskAlike
        (Relation.inside.combine ((Path.tag "input").inside (.tag "p"))
          (((Path.tag "li").inside (.tag "ul")).that [.isLastSibling, .and (.hasId "a") .hasChildren])) ∧
    Property.Aims .siblingOf ∧
    (Property.siblingOf (((Path.tag "li").inside (.tag "ul")).that
      [.and (.and .isLastSibling (.hasId "a")) .hasChildren])).toXPath =
        (Property.siblingOf (((Path.tag "li").inside (.tag "ul")).that
          [.isLastSibling, .and (.hasId "a") .hasChildren])).toXPath ∧
    (((Path.tag "li").inside (.tag "ul")).that [.isLastSibling, .and (.hasId "a") .hasChildren]).toXPath =
      "//ul//li[count(following-sibling::*)=0 and @id='a' and count(*)>0]" := by
  obtain ⟨alike, targets, aimed⟩ := (conjunctions_taken_apart ((Path.tag "li").inside (.tag "ul"))).1
    [.and (.and .isLastSibling (.hasId "a")) .hasChildren] [.isLastSibling, .and (.hasId "a") .hasChildren] rfl
  exact ⟨rfl, alike, targets ((Path.tag "input").inside (.tag "p")) .inside, .siblingOf,
    (aimed .siblingOf .siblingOf).1, by decide⟩

end Locator
