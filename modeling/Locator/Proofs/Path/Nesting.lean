import Locator.Proofs.Path.Terms

/-!
# Inside of one after the other

To put a path inside of a second path and then of a third is to put it inside of the second, put inside of the
third. Both ways end in the same chain of ancestors; only an override that stands in for an `inside` of the chain
gets its words for the new ancestors in another order.
-/

namespace Locator

set_option autoImplicit false

/-- The path has an `inside` for which the words of its override stand in. -/
def Path.coversInside (path : Path) : Bool :=
  path.constraints.any Constraint.isInside &&
    path.constraints.findIdx Constraint.isInside < path.describedUpto

/-- No override reaches beyond the constraints. -/
def Path.MarksFit (path : Path) : Prop :=
  ∀ link ∈ path.chain, link.describedUpto ≤ link.constraints.length

section Overrides

variable {front constraints : List Constraint}

theorem findIdx_last (insideless : Insideless constraints) :
    constraints.findIdx Constraint.isInside = constraints.length :=
  List.findIdx_eq_length.mpr insideless

theorem findIdx_further (insideless : Insideless front) (target : Path) (back : List Constraint) :
    (front ++ .relation .inside target :: back).findIdx Constraint.isInside = front.length := by
  have all := findIdx_last insideless
  rw [List.findIdx_append, all, if_neg (Nat.lt_irrefl _), List.findIdx_cons]
  simp [Constraint.isInside]

/-- An override that does not reach an `inside` gets no words for the new ancestor. -/
theorem extendOverride_short {node : Node} {override : Option Override} {index : Nat}
    (short : Path.describedUpto ⟨node, constraints, override⟩ ≤ index) (ancestor : Path) :
    override.map (Path.extendOverride ancestor index) = override := by
  cases override with
  | none => rfl
  | some override =>
      have beyond : ¬ index < override.covers := Nat.not_lt.mpr short
      rw [Option.map_some, Path.extendOverride, if_neg beyond]

end Overrides

namespace Path

theorem inside_inside_bare (path middle outer : Path) :
    ((path.inside middle).inside outer).bare = (path.inside (middle.inside outer)).bare := by
  -- Along the chain: at its end the one `inside` is new, and the next ancestor goes into its target.
  induction path using chain_induction with
  | last node constraints override insideless =>
      rw [inside_last insideless, inside_last insideless, inside_further insideless]
      simp only [bare]
  | further node front target back override insideless ih =>
      rw [inside_further insideless, inside_further insideless, inside_further insideless]
      simp only [bare, bareAll_eq_map, List.map_append, List.map_cons, Constraint.bare, ih]

theorem inside_inside_eq (path middle outer : Path)
    (short : ∀ link ∈ path.chain, link.describedUpto ≤ link.constraints.findIdx Constraint.isInside) :
    (path.inside middle).inside outer = path.inside (middle.inside outer) := by
  induction path using chain_induction with
  | last node constraints override insideless =>
      rw [chain_last insideless] at short
      have here := List.forall_mem_singleton.mp short
      rw [findIdx_last insideless] at here
      rw [inside_last insideless, inside_last insideless, inside_further insideless,
        extendOverride_short here]
  | further node front target back override insideless ih =>
      rw [chain_further insideless] at short
      obtain ⟨here, below⟩ := List.forall_mem_cons.mp short
      rw [findIdx_further insideless] at here
      rw [inside_further insideless, inside_further insideless, inside_further insideless, ih below,
        extendOverride_short here, extendOverride_short here, extendOverride_short here]

/-! ## Where the overrides of built paths reach -/

theorem marksFit_iff {node : Node} {constraints : List Constraint} {override : Option Override} :
    MarksFit ⟨node, constraints, override⟩ ↔
      describedUpto ⟨node, constraints, override⟩ ≤ constraints.length ∧
        ∀ link ∈ chainBelow constraints, link.describedUpto ≤ link.constraints.length := by
  rw [MarksFit, chain, List.forall_mem_cons]

theorem MarksFit.describedUpto_le {path : Path} (fits : path.MarksFit) :
    path.describedUpto ≤ path.constraints.length := by
  rcases path with ⟨node, constraints, override⟩
  exact (marksFit_iff.mp fits).1

theorem marksFit_ofNode (node : Node) : (ofNode node).MarksFit :=
  marksFit_iff.mpr ⟨Nat.zero_le _, by simp [chainBelow]⟩

theorem MarksFit.describedBy {path : Path} (fits : path.MarksFit) (text : String) :
    (path.describedBy text).MarksFit := by
  rcases path with ⟨node, constraints, override⟩
  exact marksFit_iff.mpr ⟨Nat.le_refl _, (marksFit_iff.mp fits).2⟩

theorem chainBelow_extend {back : List Constraint} (insideless : Insideless back)
    (constraints : List Constraint) : chainBelow (constraints ++ back) = chainBelow constraints := by
  rcases insideless_or_split constraints with none | ⟨front, target, others, rfl, frontInsideless⟩
  · have alone : chainBelow (constraints ++ []) = [] := chainBelow_append none
    have after : chainBelow (back ++ []) = [] := chainBelow_append insideless
    rw [List.append_nil] at alone after
    rw [chainBelow_append none, after, alone]
  · rw [List.append_assoc, chainBelow_append frontInsideless, chainBelow_append frontInsideless]
    rfl

theorem MarksFit.extend {node : Node} {constraints back : List Constraint} {override : Option Override}
    (fits : MarksFit ⟨node, constraints, override⟩) (insideless : Insideless back) :
    MarksFit ⟨node, constraints ++ back, override⟩ := by
  obtain ⟨here, below⟩ := marksFit_iff.mp fits
  refine marksFit_iff.mpr ⟨?_, ?_⟩
  · rw [List.length_append]
    exact Nat.le_add_right_of_le here
  · rwa [chainBelow_extend insideless]

theorem MarksFit.constrain {path : Path} (fits : path.MarksFit) {constraint : Constraint}
    (notInside : constraint.isInside = false) : (path.constrain constraint).MarksFit := by
  rcases path with ⟨node, constraints, override⟩
  exact fits.extend (List.forall_mem_singleton.mpr notInside)

theorem MarksFit.that {path : Path} (fits : path.MarksFit) (properties : List Property) :
    (path.that properties).MarksFit := by
  rcases path with ⟨node, constraints, override⟩
  apply fits.extend
  intro constraint member
  obtain ⟨property, -, rfl⟩ := List.mem_map.mp member
  rfl

/-- More words, for the same constraints. -/
theorem describedUpto_extendOverride (node : Node) (constraints others : List Constraint)
    (override : Option Override) (ancestor : Path) (index : Nat) :
    describedUpto ⟨node, others, override.map (extendOverride ancestor index)⟩ =
      describedUpto ⟨node, constraints, override⟩ := by
  cases override with
  | none => rfl
  | some override =>
      simp only [describedUpto, Option.map_some, extendOverride]
      split <;> rfl

theorem MarksFit.inside {path ancestor : Path} (fits : path.MarksFit) (ancestorFits : ancestor.MarksFit) :
    (path.inside ancestor).MarksFit := by
  induction path using chain_induction with
  | last node constraints override insideless =>
      rw [inside_last insideless]
      refine marksFit_iff.mpr ⟨?_, ?_⟩
      · rw [List.length_append]
        exact Nat.le_add_right_of_le (marksFit_iff.mp fits).1
      · rw [chainBelow_append insideless]
        exact ancestorFits
  | further node front target back override insideless ih =>
      obtain ⟨here, below⟩ := marksFit_iff.mp fits
      rw [chainBelow_append insideless] at below
      rw [inside_further insideless]
      refine marksFit_iff.mpr ⟨?_, ?_⟩
      · rw [describedUpto_extendOverride node (front ++ .relation .inside target :: back)]
        simpa using here
      · rw [chainBelow_append insideless]
        exact ih below

end Path

theorem PathTerm.marksFit (term : PathTerm) : term.build.MarksFit := by
  cases term with
  | tag name => exact Path.marksFit_ofNode (.element name)
  | any => exact Path.marksFit_ofNode .any
  | textNode content => exact Path.marksFit_ofNode (.text content)
  | that path properties => exact path.marksFit.that (buildAll properties)
  | relate path relation target =>
      cases relation with
      | inside => exact path.marksFit.inside target.marksFit
      | _ => exact path.marksFit.constrain rfl
  | or left right => exact Path.marksFit_ofNode (.union left.build right.build)
  | nth path earlier => exact Path.marksFit_ofNode (.occurrence path.build (.nth (earlier + 1)))
  | last path => exact Path.marksFit_ofNode (.occurrence path.build .last)
  | describedBy path text => exact path.marksFit.describedBy text

/-- The path was put together by the combinators. -/
def Path.Built (path : Path) : Prop :=
  ∃ term : PathTerm, term.build = path

theorem Path.Built.short {path : Path} (built : path.Built)
    (uncovered : ∀ link ∈ path.chain, link.coversInside = false) :
    ∀ link ∈ path.chain, link.describedUpto ≤ link.constraints.findIdx Constraint.isInside := by
  obtain ⟨term, rfl⟩ := built
  intro link member
  have fits := term.marksFit link member
  have clear := uncovered link member
  simp only [coversInside, Bool.and_eq_false_iff, decide_eq_false_iff_not, Nat.not_lt] at clear
  -- Without an `inside` the bound is the number of constraints, which no mark of a built path exceeds.
  rcases clear with none | short
  · have insideless : Insideless link.constraints := by simpa [Insideless] using none
    rwa [findIdx_last insideless]
  · exact short

/-- For every path and every two ancestors, both ways of putting the path inside of them are written alike and
differ in overrides at most. They are the same path when it was put together by the combinators and no override
of its chain stands in for the words of an `inside`. -/
theorem nested_inside_normalized (path middle outer : Path) :
    ((path.inside middle).inside outer).toXPath = (path.inside (middle.inside outer)).toXPath ∧
    ((path.inside middle).inside outer).bare = (path.inside (middle.inside outer)).bare ∧
    (path.Built → (∀ link ∈ path.chain, link.coversInside = false) →
      (path.inside middle).inside outer = path.inside (middle.inside outer)) := by
  have bare := path.inside_inside_bare middle outer
  refine ⟨(Path.askAlike_of_bare bare).toXPath, bare, ?_⟩
  intro built uncovered
  exact path.inside_inside_eq middle outer (built.short uncovered)

/-- The override of the field was given before the field was put inside of its label. -/
theorem nested_inside_normalized_described :
    (((Path.tag "input").describedBy "the field").inside (.tag "label")).Built ∧
    (∀ link ∈ (((Path.tag "input").describedBy "the field").inside (.tag "label")).chain,
      link.coversInside = false) ∧
    ((((Path.tag "input").describedBy "the field").inside (.tag "label")).inside
        ((Path.tag "span").or (.tag "div"))).inside (.tag "form") =
      (((Path.tag "input").describedBy "the field").inside (.tag "label")).inside
        (((Path.tag "span").or (.tag "div")).inside (.tag "form")) := by
  have built : (((Path.tag "input").describedBy "the field").inside (.tag "label")).Built :=
    ⟨.relate (.describedBy (.tag "input") "the field") .inside (.tag "label"), rfl⟩
  have uncovered : ∀ link ∈ (((Path.tag "input").describedBy "the field").inside (.tag "label")).chain,
      link.coversInside = false := by
    simp [Path.tag, Path.ofNode, Path.describedBy, Path.inside, Path.insideFirst, Path.chain, chainBelow,
      Path.coversInside, Constraint.isInside, Path.describedUpto]
  exact ⟨built, uncovered, (nested_inside_normalized _ ((Path.tag "span").or (.tag "div")) (.tag "form")).2.2
    built uncovered⟩

/-- Here the override stands in for `inside label`, and the words for the other ancestors depend on the way. -/
example :
    let field := ((Path.tag "input").inside (.tag "label")).describedBy "the field"
    let either := (Path.tag "span").or (.tag "div")
    ((field.inside either).inside (.tag "form")).describe = "the field, inside (span or div), inside form" ∧
    (field.inside (either.inside (.tag "form"))).describe = "the field, inside (span or div, inside form)" := by
  decide

end Locator
