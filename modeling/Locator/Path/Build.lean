import Locator.Path.Description
import Locator.Path.Properties

/-!
# Building paths

Combinators append one constraint, with one exception: a second `inside` refines the ancestor that is
there already, so a path carries at most one `inside` and nested ones read from the outermost ancestor
down. Nothing is simplified: a double negation stays as written.
-/

namespace Locator

set_option autoImplicit false

namespace Path

/-- The path with one more constraint. -/
def constrain (path : Path) (constraint : Constraint) : Path :=
  { path with constraints := path.constraints ++ [constraint] }

/-- The nodes that also have all the properties. -/
def that (path : Path) (properties : List Property) : Path :=
  { path with constraints := path.constraints ++ properties.map .property }

/-- The nodes that also have the property. -/
def and (path : Path) (property : Property) : Path :=
  path.that [property]

/-- The nodes that also have the class. -/
def withClass (path : Path) (name : String) : Path :=
  path.and (.hasClass name)

/-- The nodes that also have the own text. -/
def withText (path : Path) (value : String) : Path :=
  path.and (.hasText value)

/-- The nodes that also stand in the relation to a node of the target. -/
def relate (path : Path) (relation : Relation) (target : Path) : Path :=
  path.constrain (.relation relation target)

/-- The nodes of either path. -/
def or (left right : Path) : Path :=
  ofNode (.union left right)

/-- Puts `text` in the place of the words for everything built so far. What is selected stays the same. -/
def describedBy (path : Path) (text : String) : Path :=
  { path with override := some { text, covers := path.constraints.length } }

/-- Adds words for an ancestor to an override that covers the constraint at `index`. -/
def extendOverride (ancestor : Path) (index : Nat) (override : Override) : Override :=
  if index < override.covers then
    { override with text := override.text ++ ", inside " ++ ancestor.describeTarget }
  else override

mutual

/-- The nodes that are descendants of a node of `ancestor`. -/
def inside : Path → Path → Path
  | ⟨node, constraints, override⟩, ancestor =>
      match insideFirst ancestor constraints with
      | none => ⟨node, constraints ++ [.relation .inside ancestor], override⟩
      | some (refined, index) => ⟨node, refined, override.map (extendOverride ancestor index)⟩

/-- The constraints with the first `inside` refined by `ancestor`, and where it stands; `none` when there
is no `inside`. -/
def insideFirst (ancestor : Path) : List Constraint → Option (List Constraint × Nat)
  | [] => none
  | .relation .inside target :: others => some (.relation .inside (target.inside ancestor) :: others, 0)
  | first :: others =>
      (insideFirst ancestor others).map fun (refined, index) => (first :: refined, index + 1)

end

/-- The nodes that have a descendant in `descendant`. -/
def containing (path descendant : Path) : Path :=
  path.relate .containing descendant

/-- The nodes that are the parent of a node of `child`. -/
def parentOf (path child : Path) : Path :=
  path.relate .parentOf child

/-- The nodes that are a child of a node of `parent`. -/
def childOf (path parent : Path) : Path :=
  path.relate .childOf parent

/-- The nodes that follow a node of `other`. -/
def after (path other : Path) : Path :=
  path.relate .after other

/-- The nodes that are a later sibling of a node of `other`. -/
def afterSibling (path other : Path) : Path :=
  path.relate .afterSibling other

/-- The nodes that precede a node of `other`. -/
def before (path other : Path) : Path :=
  path.relate .before other

/-- The nodes that are an earlier sibling of a node of `other`. -/
def beforeSibling (path other : Path) : Path :=
  path.relate .beforeSibling other

/-- The nodes whose next node is in `other`. -/
def immediatelyBefore (path other : Path) : Path :=
  path.relate .immediatelyBefore other

/-- The nodes whose next sibling is in `other`. -/
def immediatelyBeforeSibling (path other : Path) : Path :=
  path.relate .immediatelyBeforeSibling other

/-- The nodes that come next after a node of `other`. -/
def immediatelyAfter (path other : Path) : Path :=
  path.relate .immediatelyAfter other

/-- The nodes that are the next sibling of a node of `other`. -/
def immediatelyAfterSibling (path other : Path) : Path :=
  path.relate .immediatelyAfterSibling other

/-- The match at `position`. -/
def occurrence (path : Path) (position : Position) : Path :=
  ofNode (.occurrence path position)

/-- The first match. -/
def first (path : Path) : Path :=
  path.occurrence (.nth 1)

/-- The last match. -/
def last (path : Path) : Path :=
  path.occurrence .last

/-- The `index`-th match, counted from one; there is no match number zero. -/
def nth? (path : Path) (index : Nat) : Except Error Path :=
  if index = 0 then .error ⟨.invalidArgument, "occurrence number starts at 1"⟩
  else .ok (path.occurrence (.nth index))

end Path

namespace CountedPath

/-- Exactly `count` nodes of `path`. -/
def exactly (count : Nat) (path : Path) : CountedPath :=
  ⟨.exactly, count, path⟩

/-- `count` nodes of `path` or more. -/
def atLeast (count : Nat) (path : Path) : CountedPath :=
  ⟨.atLeast, count, path⟩

/-- `count` nodes of `path` or fewer. -/
def atMost (count : Nat) (path : Path) : CountedPath :=
  ⟨.atMost, count, path⟩

end CountedPath

end Locator
