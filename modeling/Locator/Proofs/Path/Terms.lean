import Locator.Proofs.Path.Bare

/-!
# How paths are put together

A term is the record of how a path or a property was put together: which combinators, on which parts. Terms that
differ only in where parts were described, and in which words, build paths that differ only in their overrides, so
nothing that is asked of a browser tells them apart.
-/

namespace Locator

open Locator.XPath

set_option autoImplicit false

mutual

inductive PathTerm where
  | tag (name : String)
  | any
  | textNode (content : String)
  | that (path : PathTerm) (properties : List PropertyTerm)
  | relate (path : PathTerm) (relation : Relation) (target : PathTerm)
  | or (left right : PathTerm)
  /-- The match that comes after `earlier` others. -/
  | nth (path : PathTerm) (earlier : Nat)
  | last (path : PathTerm)
  | describedBy (path : PathTerm) (text : String)

inductive PropertyTerm where
  | test (test : Test)
  | related (relation : Relation) (target : PathTerm)
  | siblingOf (target : PathTerm)
  | occurrences (comparison : Comparison) (count : Nat) (target : PathTerm)
  | custom (fragment phrase : String)
  | and (left right : PropertyTerm)
  | or (left right : PropertyTerm)
  | not (inner : PropertyTerm)

end

/-- Every relation has a combinator of its own. -/
def Relation.combine (path target : Path) : Relation → Path
  | .inside => path.inside target
  | .containing => path.containing target
  | .parentOf => path.parentOf target
  | .childOf => path.childOf target
  | .after => path.after target
  | .afterSibling => path.afterSibling target
  | .before => path.before target
  | .beforeSibling => path.beforeSibling target
  | .immediatelyBefore => path.immediatelyBefore target
  | .immediatelyBeforeSibling => path.immediatelyBeforeSibling target
  | .immediatelyAfter => path.immediatelyAfter target
  | .immediatelyAfterSibling => path.immediatelyAfterSibling target

/-- No combinator but a second `inside` does more than to add its relation. -/
theorem Relation.combine_eq_relate {relation : Relation} {path : Path}
    (fresh : relation = .inside → Insideless path.constraints) (target : Path) :
    relation.combine path target = path.relate relation target := by
  rcases path with ⟨node, constraints, override⟩
  cases relation with
  | inside => exact Path.inside_last (fresh rfl) node override target
  | _ => rfl

mutual

def PathTerm.build : PathTerm → Path
  | .tag name => .tag name
  | .any => .any
  | .textNode content => .textNode content
  | .that path properties => path.build.that (buildAll properties)
  | .relate path relation target => relation.combine path.build target.build
  | .or left right => left.build.or right.build
  | .nth path earlier => path.build.occurrence (.nth (earlier + 1))
  | .last path => path.build.last
  | .describedBy path text => path.build.describedBy text

def PropertyTerm.build : PropertyTerm → Property
  | .test test => .test test
  | .related relation target => .related relation target.build
  | .siblingOf target => .siblingOf target.build
  | .occurrences comparison count target => .occurrences comparison count target.build
  | .custom fragment phrase => .custom fragment phrase
  | .and left right => .and left.build right.build
  | .or left right => .or left.build right.build
  | .not inner => .not inner.build

def buildAll : List PropertyTerm → List Property
  | [] => []
  | first :: others => first.build :: buildAll others

end

mutual

/-- The term without its descriptions, at any depth. -/
def PathTerm.unnamed : PathTerm → PathTerm
  | .tag name => .tag name
  | .any => .any
  | .textNode content => .textNode content
  | .that path properties => .that path.unnamed (unnamedAll properties)
  | .relate path relation target => .relate path.unnamed relation target.unnamed
  | .or left right => .or left.unnamed right.unnamed
  | .nth path earlier => .nth path.unnamed earlier
  | .last path => .last path.unnamed
  | .describedBy path _ => path.unnamed

def PropertyTerm.unnamed : PropertyTerm → PropertyTerm
  | .test test => .test test
  | .related relation target => .related relation target.unnamed
  | .siblingOf target => .siblingOf target.unnamed
  | .occurrences comparison count target => .occurrences comparison count target.unnamed
  | .custom fragment phrase => .custom fragment phrase
  | .and left right => .and left.unnamed right.unnamed
  | .or left right => .or left.unnamed right.unnamed
  | .not inner => .not inner.unnamed

def unnamedAll : List PropertyTerm → List PropertyTerm
  | [] => []
  | first :: others => first.unnamed :: unnamedAll others

end

theorem Relation.bare_combine (relation : Relation) (path target : Path) :
    (relation.combine path target).bare = relation.combine path.bare target.bare := by
  -- Only `inside` looks at the constraints that are there already.
  cases relation with
  | inside => exact Path.bare_inside path target
  | _ => exact Path.bare_constrain path _

mutual

theorem PathTerm.build_unnamed : (term : PathTerm) → term.unnamed.build = term.build.bare
  | .tag _ | .any | .textNode _ => rfl
  | .that path properties => by
      rw [PathTerm.unnamed, PathTerm.build, PathTerm.build, PathTerm.build_unnamed path,
        buildAll_unnamedAll properties, Path.bare_that]
  | .relate path relation target => by
      rw [PathTerm.unnamed, PathTerm.build, PathTerm.build, PathTerm.build_unnamed path,
        PathTerm.build_unnamed target, Relation.bare_combine]
  | .or left right => by
      rw [PathTerm.unnamed, PathTerm.build, PathTerm.build, PathTerm.build_unnamed left,
        PathTerm.build_unnamed right, Path.bare_or]
  | .nth path earlier => by
      rw [PathTerm.unnamed, PathTerm.build, PathTerm.build, PathTerm.build_unnamed path, Path.bare_occurrence]
  | .last path => by
      rw [PathTerm.unnamed, PathTerm.build, PathTerm.build, PathTerm.build_unnamed path, Path.last, Path.last,
        Path.bare_occurrence]
  | .describedBy path text => by
      rw [PathTerm.unnamed, PathTerm.build, PathTerm.build_unnamed path, Path.bare_describedBy]

theorem PropertyTerm.build_unnamed : (term : PropertyTerm) → term.unnamed.build = term.build.bare
  | .test _ | .custom _ _ => rfl
  | .related relation target => by
      rw [PropertyTerm.unnamed, PropertyTerm.build, PropertyTerm.build, PathTerm.build_unnamed target, Property.bare]
  | .siblingOf target => by
      rw [PropertyTerm.unnamed, PropertyTerm.build, PropertyTerm.build, PathTerm.build_unnamed target, Property.bare]
  | .occurrences comparison count target => by
      rw [PropertyTerm.unnamed, PropertyTerm.build, PropertyTerm.build, PathTerm.build_unnamed target, Property.bare]
  | .and left right => by
      rw [PropertyTerm.unnamed, PropertyTerm.build, PropertyTerm.build, PropertyTerm.build_unnamed left,
        PropertyTerm.build_unnamed right, Property.bare]
  | .or left right => by
      rw [PropertyTerm.unnamed, PropertyTerm.build, PropertyTerm.build, PropertyTerm.build_unnamed left,
        PropertyTerm.build_unnamed right, Property.bare]
  | .not inner => by
      rw [PropertyTerm.unnamed, PropertyTerm.build, PropertyTerm.build, PropertyTerm.build_unnamed inner,
        Property.bare]

theorem buildAll_unnamedAll : (terms : List PropertyTerm) →
    buildAll (unnamedAll terms) = (buildAll terms).map Property.bare
  | [] => rfl
  | first :: others => by
      rw [unnamedAll, buildAll, buildAll, PropertyTerm.build_unnamed first, buildAll_unnamedAll others,
        List.map_cons]

end

/-! ## Queries -/

/-- Whatever is written for one path is written for the other: on its own, and as the target of a relation,
where it is a step or a test of membership. -/
structure Path.AskAlike (path other : Path) : Prop where
  toXPath : path.toXPath = other.toXPath
  isText : path.isText = other.isText
  step : path.step.print = other.step.print
  related : ∀ relation : Relation, (relation.condition path.kind path.step).print =
    (relation.condition other.kind other.step).print

/-- Both paths compile to the same expression and to the same step, so that each can take the place of the
other. -/
structure Path.Interchangeable (path other : Path) : Prop where
  query : path.query = other.query
  isText : path.isText = other.isText
  step : path.step = other.step

theorem Path.Interchangeable.kind {path other : Path} (same : path.Interchangeable other) :
    path.kind = other.kind := by
  rw [Path.kind, Path.kind, same.isText]

theorem Path.Interchangeable.askAlike {path other : Path} (same : path.Interchangeable other) :
    path.AskAlike other :=
  ⟨congrArg Expr.print same.query, same.isText, congrArg Step.print same.step, fun relation => by
    rw [same.kind, same.step]⟩

theorem Path.askAlike_of_bare {path other : Path} (same : path.bare = other.bare) : path.AskAlike other := by
  have query : path.query = other.query := by
    rw [← path.query_bare, ← other.query_bare, same]
  have isText : path.isText = other.isText := by
    rw [← path.isText_bare, ← other.isText_bare, same]
  have step : path.step = other.step := by
    rw [← path.step_bare, ← other.step_bare, same]
  exact Interchangeable.askAlike ⟨query, isText, step⟩

theorem Property.toXPath_of_bare {property other : Property} (same : property.bare = other.bare) :
    property.toXPath = other.toXPath := by
  rw [toXPath, toXPath, ← property.condition_bare, ← other.condition_bare, same]

theorem Path.askAlike_of_unnamed {term other : PathTerm} (same : term.unnamed = other.unnamed) :
    term.build.AskAlike other.build := by
  apply askAlike_of_bare
  rw [← term.build_unnamed, ← other.build_unnamed, same]

/-- Paths and properties that differ only in overrides, at any depth, are written alike; so are those that were
put together alike but for descriptions, wherever in the building these were given. -/
theorem queries_ignore_descriptions :
    (∀ path other : Path, path.bare = other.bare → path.AskAlike other) ∧
    (∀ property other : Property, property.bare = other.bare → property.toXPath = other.toXPath) ∧
    (∀ term other : PathTerm, term.unnamed = other.unnamed → term.build.AskAlike other.build) ∧
    ∀ term other : PropertyTerm, term.unnamed = other.unnamed → term.build.toXPath = other.build.toXPath := by
  refine ⟨fun _ _ => Path.askAlike_of_bare, fun _ _ => Property.toXPath_of_bare,
    fun _ _ => Path.askAlike_of_unnamed, ?_⟩
  intro term other same
  apply Property.toXPath_of_bare
  rw [← term.build_unnamed, ← other.build_unnamed, same]

/-- A label is described before a field is put inside of it, and the field before a form is put around both. -/
theorem queries_ignore_descriptions_within :
    (Path.tag "a").describedBy "the link" ≠ Path.tag "a" ∧
    ((Path.tag "a").describedBy "the link").bare = (Path.tag "a").bare ∧
    ((Path.tag "a").describedBy "the link").AskAlike (.tag "a") ∧
    (Property.not (.contains ((Path.tag "a").describedBy "the link"))).toXPath =
      (Property.not (.contains (.tag "a"))).toXPath ∧
    (PathTerm.relate (.describedBy (.relate (.tag "input") .inside (.describedBy (.tag "label") "its label"))
      "the field") .inside (.tag "form")).build.AskAlike
        (PathTerm.relate (.relate (.tag "input") .inside (.tag "label")) .inside (.tag "form")).build ∧
    (PropertyTerm.siblingOf (.describedBy (.tag "a") "the link")).build.toXPath =
      (PropertyTerm.siblingOf (.tag "a")).build.toXPath := by
  obtain ⟨paths, properties, pathTerms, propertyTerms⟩ := queries_ignore_descriptions
  have differ : (Path.tag "a").describedBy "the link" ≠ Path.tag "a" := by
    simp [Path.describedBy, Path.tag, Path.ofNode]
  exact ⟨differ, rfl, paths _ _ rfl, properties _ _ rfl, pathTerms _ _ rfl, propertyTerms _ _ rfl⟩

end Locator
