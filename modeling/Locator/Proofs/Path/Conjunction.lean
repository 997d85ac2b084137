import Locator.Proofs.Path.Fragments
import Locator.Proofs.XPath.Readings

/-!
# Properties side by side

The conditions of a path stand in one predicate, joined by `and`. Each then counts as it does on its own, as long
as no fragment of text among them is an `or` of others: a fragment is put there as it is, without parentheses.
-/

namespace Locator

open Locator.XPath

set_option autoImplicit false

/-! ## The predicate at the end -/

/-- The conditions in the predicate at the end of the path's expression. -/
def Path.block : Path → List Expr
  | ⟨node, constraints, _⟩ =>
      match node.set? with
      | some _ => conditions constraints
      | none => node.test.2 ++ remaining constraints

/-- The path's expression up to that predicate. -/
def Path.location : Path → Expr
  | ⟨node, constraints, override⟩ =>
      match node.set? with
      | some set => set
      | none =>
          startWith (Path.kind ⟨node, constraints, override⟩)
            { axis := none, test := node.test.1, predicates := [] } constraints

/-- The conditions in the predicate of the path as a step to be put after an axis. -/
def Path.stepBlock : Path → List Expr
  | ⟨node, constraints, _⟩ => node.test.2 ++ conditions constraints

theorem conditions_append (front back : List Constraint) :
    conditions (front ++ back) = conditions front ++ conditions back := by
  induction front with
  | nil => rfl
  | cons constraint others ih => cases constraint <;> simp [conditions, ih]

theorem conditions_properties (properties : List Property) :
    conditions (properties.map .property) = properties.flatMap Property.conjuncts := by
  induction properties with
  | nil => rfl
  | cons property others ih => simp [conditions, ih]

theorem remaining_properties (properties : List Property) :
    remaining (properties.map .property) = properties.flatMap Property.conjuncts := by
  induction properties with
  | nil => rfl
  | cons property others ih => simp [remaining, ih]

theorem remaining_append (constraints : List Constraint) (properties : List Property) :
    remaining (constraints ++ properties.map .property) =
      remaining constraints ++ properties.flatMap Property.conjuncts := by
  induction constraints with
  | nil => exact remaining_properties properties
  | cons constraint others ih =>
      cases constraint with
      | property property => simp [remaining, ih]
      | relation relation target =>
          simp only [List.cons_append, remaining]
          split
          · rw [conditions_append, conditions_properties]
          · rw [ih, List.cons_append]

theorem startWith_append (kind : NodeTest) (tail : Step) (constraints : List Constraint)
    (properties : List Property) :
    startWith kind tail (constraints ++ properties.map .property) = startWith kind tail constraints := by
  induction constraints with
  | nil =>
      induction properties with
      | nil => rfl
      | cons property others ih => simpa [startWith] using ih
  | cons constraint others ih =>
      cases constraint with
      | property property => simpa [startWith] using ih
      | relation relation target => simp only [List.cons_append, startWith, ih]

theorem Path.block_that (path : Path) (properties : List Property) :
    (path.that properties).block = path.block ++ properties.flatMap Property.conjuncts := by
  rcases path with ⟨node, constraints, override⟩
  simp only [Path.that, Path.block]
  split
  · rw [conditions_append, conditions_properties]
  · rw [remaining_append, List.append_assoc]

theorem Path.stepBlock_that (path : Path) (properties : List Property) :
    (path.that properties).stepBlock = path.stepBlock ++ properties.flatMap Property.conjuncts := by
  rcases path with ⟨node, constraints, override⟩
  simp only [Path.that, Path.stepBlock, conditions_append, conditions_properties, List.append_assoc]

theorem print_restrict (set : Expr) (conditions : List Expr) :
    (set.restrict conditions).print = set.print ++ printPredicates (Expr.conjunction conditions) := by
  cases conditions with
  | nil => simp [Expr.restrict, Expr.conjunction, Expr.chain, printPredicates]
  | cons first others =>
      simp [Expr.restrict, Expr.conjunction, Expr.chain, Expr.print, printPredicates, String.append_assoc]

theorem print_step (test : NodeTest) (predicates : List Expr) :
    Step.print { axis := none, test, predicates } = test.print ++ printPredicates predicates := by
  simp [Step.print]

theorem Relation.print_start (relation : Relation) (targets : Expr) (kind test : NodeTest) :
    ∃ front, ∀ predicates,
      (relation.start targets kind { axis := none, test, predicates }).print =
        front ++ printPredicates predicates := by
  cases relation <;>
    exact ⟨_, fun predicates => by
      simp only [Relation.start, Expr.print, Step.along, Step.print, ← String.append_assoc]; rfl⟩

theorem print_startWith (kind test : NodeTest) (constraints : List Constraint) :
    ∃ front, ∀ predicates,
      (startWith kind { axis := none, test, predicates } constraints).print =
        front ++ printPredicates predicates := by
  -- Only the first leading relation matters, and it stands in front of the tail.
  induction constraints with
  | nil =>
      refine ⟨"//" ++ test.print, fun predicates => ?_⟩
      simp [startWith, Expr.print, print_step, String.append_assoc]
  | cons constraint others ih =>
      cases constraint with
      | property property => simpa [startWith] using ih
      | relation relation target =>
          cases leads : relation.leads with
          | true => simpa [startWith, leads] using relation.print_start target.query kind test
          | false => simpa [startWith, leads] using ih

theorem Path.print_query (path : Path) :
    path.toXPath = path.location.print ++ printPredicates (Expr.conjunction path.block) := by
  rcases path with ⟨node, constraints, override⟩
  cases isSet : node.set? with
  | some set => simp only [toXPath, query, location, block, isSet, print_restrict]
  | none =>
      obtain ⟨front, printed⟩ :=
        print_startWith (Path.kind ⟨node, constraints, override⟩) node.test.1 constraints
      simp only [toXPath, query, location, block, isSet, printed]
      simp [printPredicates]

theorem Path.location_that (path : Path) (properties : List Property) :
    (path.that properties).location = path.location := by
  rcases path with ⟨node, constraints, override⟩
  simp only [that, location, kind_mk, startWith_append]

/-- Added properties only change the predicate at the end. -/
theorem Path.print_that (path : Path) :
    ∃ front, ∀ properties, (path.that properties).toXPath =
      front ++ printPredicates (Expr.conjunction (path.block ++ properties.flatMap Property.conjuncts)) := by
  refine ⟨path.location.print, fun properties => ?_⟩
  rw [Path.print_query, Path.location_that, Path.block_that]

theorem Path.print_step_that (path : Path) (noSet : path.node.isSet = false) :
    ∃ front, ∀ properties, (path.that properties).step.print =
      front ++
        printPredicates (Expr.conjunction (path.stepBlock ++ properties.flatMap Property.conjuncts)) := by
  rcases path with ⟨node, constraints, override⟩
  refine ⟨node.test.1.print, fun properties => ?_⟩
  simp only [Path.that, Path.step, Path.stepBlock, Node.set?_eq_none noSet, conditions_append,
    conditions_properties, List.append_assoc, print_step]

/-! ## When the predicate holds -/

/-- No fragment that stands next to another condition is an `or` of others. -/
def Joinable (conditions : List Expr) : Prop :=
  1 < conditions.length → ∀ text, .raw text ∈ conditions → IsExpression .and text

theorem Joinable.part {conditions part : List Expr} (joinable : Joinable conditions)
    (sublist : part.Sublist conditions) : Joinable part := by
  intro several text member
  exact joinable (Nat.lt_of_lt_of_le several sublist.length_le) text (sublist.subset member)

theorem Joinable.contained {conditions : List Expr} (joinable : Joinable conditions)
    (joins : ∀ condition ∈ conditions, condition.Joins) (several : 1 < conditions.length) :
    ∀ condition ∈ conditions, condition.Contained ["or"] := by
  intro condition member
  by_cases isRaw : ∃ text, condition = .raw text
  · rcases isRaw with ⟨text, rfl⟩
    exact (joinable several text member).contained
  · have noRaw : ∀ text, condition ≠ .raw text := fun text same => isRaw ⟨text, same⟩
    exact ((joins condition member).operand noRaw).fewer (by simp)

section Holds

variable {atom : List Word → Prop}

theorem Property.conjuncts_ne_nil (property : Property) : property.conjuncts ≠ [] := by
  match property with
  | .and left right => simp [Property.conjuncts, Property.conjuncts_ne_nil left]
  | .test _ | .related _ _ | .siblingOf _ | .occurrences _ _ _ | .custom _ _ | .or _ _ | .not _ =>
      simp [Property.conjuncts]

theorem Property.mem_conjuncts_of_raw {property : Property} {text : String}
    (isRaw : property.condition = .raw text) : .raw text ∈ property.conjuncts := by
  cases property with
  | custom fragment phrase => simpa [Property.condition, Property.conjuncts, eq_comm] using isRaw
  | test test =>
      have fits := (test.condition_draws (List.subset_append_left fixedLeaves test.leaves)
        (List.subset_append_right fixedLeaves test.leaves)).fits
      rw [Property.condition] at isRaw
      rw [isRaw] at fits
      exact absurd fits (by simp [Expr.fits])
  | related relation target =>
      cases relation <;> simp [Property.condition, Relation.condition] at isRaw
  | _ => simp [Property.condition, siblingCondition, countCondition, Expr.negate] at isRaw

theorem Property.and_holds {left right : Property}
    (leftContained : ∀ fragment ∈ left.fragments, Contained [] fragment)
    (rightContained : ∀ fragment ∈ right.fragments, Contained [] fragment)
    (joinable : Joinable [left.condition, right.condition]) :
    HoldsText atom (Property.and left right).toXPath ↔
      HoldsText atom left.toXPath ∧ HoldsText atom right.toXPath := by
  have joins : ∀ condition ∈ [left.condition, right.condition], condition.Joins := by
    simpa using ⟨Property.condition_joins left leftContained, Property.condition_joins right rightContained⟩
  have contained := joinable.contained joins (by simp)
  have leftAlone := contained left.condition (by simp)
  have rightAlone := contained right.condition (by simp)
  have both : (Expr.binary .and left.condition right.condition).Contained [] :=
    ⟨by simp, leftAlone.fewer (by simp), rightAlone.fewer (by simp)⟩
  rw [Property.toXPath, Property.condition, holdsText_group both, holdsText_and leftAlone rightAlone]
  rfl

/-- An alternative stands in parentheses, so it does not matter what its two parts are. -/
theorem Property.or_holds {left right : Property}
    (leftContained : ∀ fragment ∈ left.fragments, Contained [] fragment)
    (rightContained : ∀ fragment ∈ right.fragments, Contained [] fragment) :
    HoldsText atom (Property.or left right).toXPath ↔
      HoldsText atom left.toXPath ∨ HoldsText atom right.toXPath := by
  have leftAlone := (Property.condition_joins left leftContained).contained
  have rightAlone := (Property.condition_joins right rightContained).contained
  have either : (Expr.binary .or left.condition right.condition).Contained [] :=
    ⟨by simp, leftAlone, rightAlone⟩
  rw [Property.toXPath, Property.condition, holdsText_group either, holdsText_or leftAlone rightAlone]
  rfl

/-- A property holds when all the conditions do that it puts into a predicate. -/
theorem Property.conjuncts_hold (property : Property)
    (contained : ∀ fragment ∈ property.fragments, Contained [] fragment)
    (joinable : Joinable property.conjuncts) :
    (∀ condition ∈ property.conjuncts, HoldsText atom condition.print) ↔ HoldsText atom property.toXPath := by
  match property with
  | .and left right =>
      obtain ⟨leftContained, rightContained⟩ := List.forall_mem_append.mp contained
      -- A conjunction makes at least two conditions, so `joinable` does speak of its fragments.
      have several : 1 < (left.conjuncts ++ right.conjuncts).length := by
        have leftLength := List.length_pos_iff.mpr left.conjuncts_ne_nil
        have rightLength := List.length_pos_iff.mpr right.conjuncts_ne_nil
        rw [List.length_append]
        omega
      have sides : Joinable [left.condition, right.condition] := by
        intro _ text member
        apply joinable several text
        simp only [List.mem_cons, List.not_mem_nil, or_false] at member
        rcases member with isRaw | isRaw
        · exact List.mem_append_left _ (Property.mem_conjuncts_of_raw isRaw.symm)
        · exact List.mem_append_right _ (Property.mem_conjuncts_of_raw isRaw.symm)
      have leftHolds := Property.conjuncts_hold left leftContained
        (joinable.part (List.sublist_append_left left.conjuncts right.conjuncts))
      have rightHolds := Property.conjuncts_hold right rightContained
        (joinable.part (List.sublist_append_right left.conjuncts right.conjuncts))
      rw [Property.conjuncts, List.forall_mem_append, leftHolds, rightHolds,
        Property.and_holds leftContained rightContained sides]
  | .test _ | .related _ _ | .siblingOf _ | .occurrences _ _ _ | .custom _ _ | .or _ _ | .not _ =>
      simp [Property.conjuncts, Property.toXPath, Property.condition]

theorem conjuncts_sublist {property : Property} {properties : List Property} (member : property ∈ properties) :
    property.conjuncts.Sublist (properties.flatMap Property.conjuncts) := by
  rw [List.flatMap_def]
  exact (List.infix_of_mem_flatten (List.mem_map_of_mem member)).sublist

/-- Properties put next to other conditions each count as they do on their own. -/
theorem blockHolds_append {before : List Expr} (joins : ∀ condition ∈ before, condition.Joins)
    {properties : List Property}
    (contained : ∀ property ∈ properties, ∀ fragment ∈ property.fragments, Contained [] fragment)
    (joinable : Joinable (before ++ properties.flatMap Property.conjuncts)) :
    BlockHolds atom (before ++ properties.flatMap Property.conjuncts) ↔
      BlockHolds atom before ∧ ∀ property ∈ properties, HoldsText atom property.toXPath := by
  have propertiesJoin : ∀ condition ∈ properties.flatMap Property.conjuncts, condition.Joins := by
    intro condition member
    obtain ⟨property, inside, conjunct⟩ := List.mem_flatMap.mp member
    exact Property.conjuncts_join property (contained property inside) condition conjunct
  have allJoin := List.forall_mem_append.mpr ⟨joins, propertiesJoin⟩
  have back := List.sublist_append_right before (properties.flatMap Property.conjuncts)
  have beforeJoinable := joinable.part (List.sublist_append_left before (properties.flatMap Property.conjuncts))
  have each : ∀ property ∈ properties,
      ((∀ condition ∈ property.conjuncts, HoldsText atom condition.print) ↔
        HoldsText atom property.toXPath) := fun property member =>
    property.conjuncts_hold (contained property member) (joinable.part ((conjuncts_sublist member).trans back))
  rw [blockHolds_iff (joinable.contained allJoin), blockHolds_iff (beforeJoinable.contained joins),
    List.forall_mem_append, List.forall_mem_flatMap]
  exact and_congr_right fun _ => forall₂_congr each

end Holds

theorem Path.block_joins (path : Path) (contained : ∀ fragment ∈ path.fragments, Contained [] fragment) :
    ∀ condition ∈ path.block, condition.Joins := by
  rcases path with ⟨node, constraints, override⟩
  have constraintsContained := (List.forall_mem_append.mp contained).2
  simp only [Path.block]
  split
  · exact conditions_join constraints constraintsContained
  · exact List.forall_mem_append.mpr ⟨node.test_joins.2, remaining_join constraints constraintsContained⟩

theorem Path.stepBlock_joins (path : Path) (contained : ∀ fragment ∈ path.fragments, Contained [] fragment) :
    ∀ condition ∈ path.stepBlock, condition.Joins := by
  rcases path with ⟨node, constraints, override⟩
  have constraintsContained := (List.forall_mem_append.mp contained).2
  exact List.forall_mem_append.mpr ⟨node.test_joins.2, conditions_join constraints constraintsContained⟩

theorem Path.that_nil (path : Path) : path.that [] = path := by
  rcases path with ⟨node, constraints, override⟩
  simp [Path.that]

/-- Where all fragments are expressions, and none that stands next to another condition is an `or` of others, the
predicate of a path with added properties holds exactly when the predicate that the path had holds and each
property does on its own, and so does that of the step for the path; nothing but the predicate changes. A
disjunction of two properties holds when one does, and a conjunction when both do, the latter again if no side is
a fragment that is an `or`. All of this is true whatever operands hold. -/
theorem that_holds_as_each (path : Path) (properties : List Property) (left right : Property)
    (own : ∀ fragment ∈ path.fragments, IsExpression .or fragment)
    (added : ∀ property ∈ properties, ∀ fragment ∈ property.fragments, IsExpression .or fragment)
    (sides : ∀ fragment ∈ left.fragments ++ right.fragments, IsExpression .or fragment) :
    (Joinable (path.that properties).block → ∃ front,
      path.toXPath = front ++ printPredicates (Expr.conjunction path.block) ∧
      (path.that properties).toXPath =
        front ++ printPredicates (Expr.conjunction (path.that properties).block) ∧
      ∀ atom, BlockHolds atom (path.that properties).block ↔
        BlockHolds atom path.block ∧ ∀ property ∈ properties, HoldsText atom property.toXPath) ∧
    (path.node.isSet = false → Joinable (path.that properties).stepBlock → ∃ front,
      path.step.print = front ++ printPredicates (Expr.conjunction path.stepBlock) ∧
      (path.that properties).step.print =
        front ++ printPredicates (Expr.conjunction (path.that properties).stepBlock) ∧
      ∀ atom, BlockHolds atom (path.that properties).stepBlock ↔
        BlockHolds atom path.stepBlock ∧ ∀ property ∈ properties, HoldsText atom property.toXPath) ∧
    ∀ atom,
      (HoldsText atom (Property.or left right).toXPath ↔
        HoldsText atom left.toXPath ∨ HoldsText atom right.toXPath) ∧
      (Joinable [left.condition, right.condition] →
        (HoldsText atom (Property.and left right).toXPath ↔
          HoldsText atom left.toXPath ∧ HoldsText atom right.toXPath)) := by
  have ownContained : ∀ fragment ∈ path.fragments, Contained [] fragment := fun fragment member =>
    (own fragment member).contained
  have each : ∀ property ∈ properties, ∀ fragment ∈ property.fragments, Contained [] fragment :=
    fun property inside fragment member => (added property inside fragment member).contained
  have sidesContained : ∀ fragment ∈ left.fragments ++ right.fragments, Contained [] fragment :=
    fun fragment member => (sides fragment member).contained
  obtain ⟨leftContained, rightContained⟩ := List.forall_mem_append.mp sidesContained
  rw [Path.block_that, Path.stepBlock_that]
  refine ⟨?_, ?_, ?_⟩
  · intro joinable
    obtain ⟨front, printed⟩ := path.print_that
    have before := printed []
    rw [Path.that_nil, List.flatMap_nil, List.append_nil] at before
    have holds {atom : List Word → Prop} := @blockHolds_append atom _ (path.block_joins ownContained) _ each joinable
    exact ⟨front, before, printed properties, fun _ => holds⟩
  · intro noSet joinable
    obtain ⟨front, printed⟩ := path.print_step_that noSet
    have before := printed []
    rw [Path.that_nil, List.flatMap_nil, List.append_nil] at before
    have holds {atom : List Word → Prop} :=
      @blockHolds_append atom _ (path.stepBlock_joins ownContained) _ each joinable
    exact ⟨front, before, printed properties, fun _ => holds⟩
  · intro atom
    exact ⟨Property.or_holds leftContained rightContained, Property.and_holds leftContained rightContained⟩

/-! ## Fragments that name attributes -/

theorem isExpression_attribute {level : Level} {text name : String}
    (cuts : Cuts none text.toList [.mark "@", .operand name]) : IsExpression level text :=
  ⟨_, cuts, (Reads.attributes (.operand name)).loosen (by cases level <;> decide), by simp⟩

theorem holdsText_attribute {atom : List Word → Prop} {text name : String}
    (cuts : Cuts none text.toList [.mark "@", .operand name]) :
    HoldsText atom text ↔ atom [.mark "@", .operand name] := by
  have paired : Paired ["or", "and"] [.mark "@", .operand name] := .mark (.operand name)
  have alone : HoldsText atom text ↔ Holds atom [.mark "@", .operand name] := by
    constructor
    · rintro ⟨words, again, holds⟩
      exact cuts.unique again ▸ holds
    · exact fun holds => ⟨_, cuts, holds⟩
  rw [alone, holds_operand paired (by simp) (by simp), holdsOperand_atom (by simp)]

theorem cuts_at_c : Cuts none "@c".toList [.mark "@", .operand "c"] :=
  .word rfl (.word rfl (.done _))

theorem isExpression_either : IsExpression .or "@a or @b" := by
  have named (name : String) {level : Level} : Reads (.expression level) [.mark "@", .operand name] :=
    (Reads.attributes (.operand name)).loosen (by cases level <;> decide)
  have either := Reads.operation (by decide : "or" ∈ Level.operators .or) rfl (named "a") (named "b")
  exact ⟨_, .word rfl (.word rfl (.blank rfl (.word rfl (.blank rfl (.word rfl (.word rfl (.done _))))))),
    either, by simp⟩

/-- What holds at a node with one attribute, of operands that ask for an attribute. -/
def hasOnly (name : String) (words : List Word) : Prop :=
  words = [.mark "@", .operand name]

theorem block_tag_div : (Path.tag "div").block = [] := rfl

/-- In the parentheses of a disjunction a fragment may be an `or`; the fragment beside it is none. -/
theorem that_holds_as_each_grouped :
    IsExpression .or "@a or @b" ∧ IsExpression .or "@c" ∧
    Joinable ((Path.tag "div").that
      [.or (.custom "@a or @b" "x") (.custom "@c" "y"), .custom "@c" "y"]).block ∧
    ((Path.tag "div").that [.or (.custom "@a or @b" "x") (.custom "@c" "y"), .custom "@c" "y"]).toXPath =
      "//div[(@a or @b or @c) and @c]" ∧
    BlockHolds (hasOnly "c") ((Path.tag "div").that
      [.or (.custom "@a or @b" "x") (.custom "@c" "y"), .custom "@c" "y"]).block := by
  have expressions : ∀ fragment ∈ ["@a or @b", "@c"], IsExpression .or fragment := by
    simpa using ⟨isExpression_either, isExpression_attribute cuts_at_c⟩
  have joinable : Joinable ((Path.tag "div").that
      [.or (.custom "@a or @b" "x") (.custom "@c" "y"), .custom "@c" "y"]).block := by
    intro _ text member
    rw [Path.block_that, block_tag_div] at member
    obtain rfl : text = "@c" := by simpa [Property.conjuncts] using member
    exact isExpression_attribute cuts_at_c
  have third : HoldsText (hasOnly "c") "@c" := (holdsText_attribute cuts_at_c).mpr rfl
  obtain ⟨block, -, sides⟩ := that_holds_as_each (Path.tag "div")
    [.or (.custom "@a or @b" "x") (.custom "@c" "y"), .custom "@c" "y"]
    (.custom "@a or @b" "x") (.custom "@c" "y") (by simp [Path.tag, Path.ofNode, Path.fragments,
      Node.fragments, constraintFragments]) (by simpa [Property.fragments] using expressions) expressions
  obtain ⟨-, -, -, each⟩ := block joinable
  refine ⟨isExpression_either, isExpression_attribute cuts_at_c, joinable, by decide, (each _).mpr ⟨?_, ?_⟩⟩
  · simp [block_tag_div, BlockHolds, Expr.conjunction, Expr.chain]
  · simpa using ⟨(sides (hasOnly "c")).1.mpr (.inr third), third⟩

/-- An element that has the attribute `a` and no other. -/
def dividedByA : Document :=
  ⟨[.element "div" [("a", "")] []]⟩

/-- Put beside another one, a fragment that is an `or` does not keep to itself: the element with the attribute `a`
alone is selected, although it does not have the second property. -/
theorem joined_fragments_differ :
    IsExpression .or "@a or @b" ∧ IsExpression .or "@c" ∧
    ((Path.tag "div").that [.custom "@a or @b" "x", .custom "@c" "y"]).toXPath = "//div[@a or @b and @c]" ∧
    BlockHolds (hasOnly "a") ((Path.tag "div").that [.custom "@a or @b" "x", .custom "@c" "y"]).block ∧
    HoldsText (hasOnly "a") (Property.and (.custom "@a or @b" "x") (.custom "@c" "y")).toXPath ∧
    ¬ HoldsText (hasOnly "a") (Property.custom "@c" "y").toXPath ∧
    (∃ tokens expression, Lexes none
        ((Path.tag "div").that [.custom "@a or @b" "x", .custom "@c" "y"]).toXPath.toList tokens ∧
      Derives (.expression .or expression) tokens ∧ expression.select dividedByA = some [.node [0]]) ∧
    ∃ tokens expression, Lexes none ((Path.tag "div").that [.custom "@c" "y"]).toXPath.toList tokens ∧
      Derives (.expression .or expression) tokens ∧ expression.select dividedByA = some [] := by
  have joined : HoldsText (hasOnly "a") "@a or @b and @c" := by
    refine ⟨[.mark "@", .operand "a", .operator "or", .mark "@", .operand "b", .operator "and", .mark "@",
      .operand "c"], ?_, .alternative (by decide : [.mark "@", .operand "a"] ∈ _) ?_⟩
    · exact .word rfl (.word rfl (.blank rfl (.word rfl (.blank rfl (.word rfl (.word rfl (.blank rfl
        (.word rfl (.blank rfl (.word rfl (.word rfl (.done _))))))))))))
    · have single : HoldsOperand (hasOnly "a") [.mark "@", .operand "a"] :=
        (holdsOperand_atom (by simp)).mpr rfl
      simpa [pieces, Word.deepen] using single
  have fragments : (Expr.binary .and (.raw "@a or @b") (.raw "@c")).Contained [] :=
    ⟨by simp, isExpression_either.contained, (isExpression_attribute cuts_at_c : IsExpression .or "@c").contained⟩
  have conjoined : HoldsText (hasOnly "a") (Property.and (.custom "@a or @b" "x") (.custom "@c" "y")).toXPath :=
    (holdsText_group fragments).mpr joined
  have unnamed : ¬ HoldsText (hasOnly "a") (Property.custom "@c" "y").toXPath := by
    intro holds
    exact absurd ((holdsText_attribute cuts_at_c).mp holds) (by simp [hasOnly])
  have read (expression : Expr) (fits : expression.fits = true) :
      ∃ tokens, Lexes none expression.print.toList tokens ∧
        Derives (.expression .or expression.spelled) tokens := by
    obtain ⟨tokens, text, shows⟩ := expression.written fits
    exact ⟨tokens, text.whole, shows.whole⟩
  obtain ⟨tokens, lexes, reading⟩ := read (.anywhere
    { axis := none
      test := .name "div"
      predicates := [.binary .or (attributeNamed "a") (.binary .and (attributeNamed "b") (attributeNamed "c"))] })
    (by decide)
  obtain ⟨tokens', lexes', reading'⟩ := read (.anywhere
    { axis := none, test := .name "div", predicates := [attributeNamed "c"] }) (by decide)
  refine ⟨isExpression_either, isExpression_attribute cuts_at_c, by decide, ?_, conjoined, unnamed,
    ⟨tokens, _, lexes, reading, by decide⟩, tokens', _, lexes', reading', by decide⟩
  intro predicate member
  obtain rfl := List.mem_singleton.mp member
  exact joined

end Locator
