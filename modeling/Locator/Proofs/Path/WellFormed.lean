import Locator.Proofs.Path.Leaves

/-!
# Paths print well-formed expressions

Whatever strings a path holds, its text can be read by the grammar, and the strings are in it only as values
of string expressions and, when they are plain names, as name tests. The proof follows the compilation and
keeps, for each expression made, how tight it binds and what it draws on.
-/

namespace Locator

open Locator.Text Locator.XPath

set_option autoImplicit false

variable {allowed : List Leaf}

/-! ## Tests -/

theorem textCondition_draws {subject : Expr} (draws : subject.Draws allowed .path) {scope : TextScope}
    {comparison : TextMatch} {value : String} (drawn : (Test.text scope comparison value).leaves ⊆ allowed) :
    (Test.textCondition subject comparison value).Draws allowed .equality := by
  cases comparison with
  | pattern => exact wildcard_draws draws drawn
  | equals => exact draws_equals draws.operand (draws_literal (drawn (by simp [Test.leaves])))
  | contains => exact (draws_call_literal .contains draws (drawn (by simp [Test.leaves]))).operand
  | startsWith => exact (draws_call_literal .startsWith draws (drawn (by simp [Test.leaves]))).operand
  | endsWith => exact endsWith_draws draws (drawn (by simp [Test.leaves]))

theorem elements_draw (axis : Option Axis) :
    Step.Draws allowed { axis, test := .principal, predicates := [] } :=
  step_draws rfl (List.nil_subset _) (by simp)

theorem count_draws {set : Expr} (draws : set.Draws allowed .path) :
    set.count.Draws allowed .path :=
  draws.operand.call .count

theorem ownText_draws {predicates : List Expr}
    (draws : ∀ predicate ∈ predicates, predicate.Draws allowed .or) :
    (Test.ownText predicates).Draws allowed .path :=
  (step_draws rfl (List.nil_subset _) draws).expression

theorem Test.condition_draws (test : Test) (fixed : fixedLeaves ⊆ allowed)
    (drawn : test.leaves ⊆ allowed) : test.condition.Draws allowed .equality := by
  have blank : Leaf.string " " ∈ allowed := fixed (by decide)
  have fixedName (name : String) (member : nameLeaf name ∈ fixedLeaves) :
      (attributeNamed name).Draws allowed .path := attributeNamed_draws (fixed member)
  have idName := fixedName "id" (by decide)
  have className := fixedName "class" (by decide)
  have number (set : Expr) (draws : set.Draws allowed .path) (value : Nat) :
      (Expr.equals set.count (.number value)).Draws allowed .equality :=
    draws_equals (count_draws draws).operand (draws_number value)
  cases test with
  | hasAttribute name => exact (attributeNamed_draws (drawn (by simp [Test.leaves]))).operand
  | attributeEquals name value =>
      have named := attributeNamed_draws (drawn (by simp [Test.leaves]) : nameLeaf name ∈ allowed)
      exact draws_equals named.operand (draws_literal (drawn (by simp [Test.leaves])))
  | attributeHasWord name word =>
      have named := attributeNamed_draws (drawn (by simp [Test.leaves]) : nameLeaf name ∈ allowed)
      exact (hasWord_draws named blank (drawn (by simp [Test.leaves]))).operand
  | attributeContains name value =>
      have named := attributeNamed_draws (drawn (by simp [Test.leaves]) : nameLeaf name ∈ allowed)
      exact (draws_call_literal .contains named (drawn (by simp [Test.leaves]))).operand
  | hasId id => exact draws_equals idName.operand (draws_literal (drawn (by simp [Test.leaves])))
  | hasClass name => exact (hasWord_draws className blank (drawn (by simp [Test.leaves]))).operand
  | hasAnyClass names =>
      apply draws_joined .or (by decide) (draws_call _ (by simp))
      intro condition inside
      obtain ⟨name, member, rfl⟩ := List.mem_map.mp inside
      have wordMember : wordLeaf name ∈ allowed := drawn (List.mem_map.mpr ⟨name, member, rfl⟩)
      exact (hasWord_draws className blank wordMember).operand
  | hasAllClasses names =>
      apply draws_joined .and (by decide) (draws_call _ (by simp))
      intro condition inside
      obtain ⟨name, member, rfl⟩ := List.mem_map.mp inside
      have wordMember : wordLeaf name ∈ allowed := drawn (List.mem_map.mpr ⟨name, member, rfl⟩)
      exact (hasWord_draws className blank wordMember).operand
  | classContains fragment =>
      exact (draws_call_literal .contains className (drawn (by simp [Test.leaves]))).operand
  | text scope comparison value =>
      have direct := textCondition_draws draws_context drawn
      have aggregated : Test.aggregatedText.Draws allowed .path :=
        (draws_context.call .string).call .normalizeSpace
      have own : (Test.ownText [Test.textCondition .context comparison value]).Draws allowed .path := by
        apply ownText_draws
        intro predicate member
        exact List.mem_singleton.mp member ▸ direct.weaken (by decide)
      cases scope with
      | own =>
          cases comparison with
          | equals =>
              have value : Leaf.string value ∈ allowed := drawn (by simp [Test.leaves])
              exact draws_equals (ownText_draws (by simp)).operand (draws_literal value)
          | contains => exact own.operand
          | startsWith => exact own.operand
          | endsWith => exact own.operand
          | pattern => exact own.operand
      | aggregated => exact textCondition_draws aggregated drawn
  | sibling place =>
      cases place with
      | nth index => exact number _ (elements_draw (some .precedingSibling)).expression index
      | last => exact number _ (elements_draw (some .followingSibling)).expression 0
      | only =>
          have parent : Expr.parent.Draws allowed .path := ⟨rfl, List.nil_subset _, by decide⟩
          exact number _ (parent.walk (elements_draw none)) 1
  | childCount count => exact number _ (elements_draw none).expression count
  | hasChildren =>
      have children : Test.children.Draws allowed .path := (elements_draw none).expression
      have compared : (Expr.binary .greater Test.children.count (.number 0)).Draws allowed .relational :=
        (count_draws children).operand.binary rfl (draws_number 0)
          (by decide : Level.rank .relational < Level.rank .additive)
      exact compared.weaken (by decide)
  | noChildren => exact number _ (elements_draw none).expression 0
  | state state =>
      cases state with
      | checked => exact (fixedName "checked" (by decide)).operand
      | selected => exact (fixedName "selected" (by decide)).operand
      | disabled => exact (fixedName "disabled" (by decide)).operand
      | enabled => exact (fixedName "disabled" (by decide)).operand.call .not

/-! ## Relations -/

theorem nearest_draws (axis : Axis) {kind : NodeTest} (unnamed : kind.leaves = []) {target : Step}
    (draws : target.Draws allowed) :
    Step.Draws allowed
      { axis := some axis, test := kind, predicates := [.number 1, .step (target.along .self)] } := by
  have fits : kind.fits = true := by
    cases kind <;> first | rfl | exact absurd unnamed (by simp [NodeTest.leaves])
  apply step_draws fits (by simp [unnamed])
  intro predicate inside
  simp only [List.mem_cons, List.not_mem_nil, or_false] at inside
  rcases inside with rfl | rfl
  · exact draws_number 1
  · exact (draws.along .self).expression

theorem first_draws (axis : Axis) {kind : NodeTest} (unnamed : kind.leaves = []) :
    Step.Draws allowed { axis := some axis, test := kind, predicates := [.number 1] } := by
  have fits : kind.fits = true := by
    cases kind <;> first | rfl | exact absurd unnamed (by simp [NodeTest.leaves])
  apply step_draws fits (by simp [unnamed])
  intro predicate inside
  exact List.mem_singleton.mp inside ▸ draws_number 1

theorem Path.kind_leaves (path : Path) : path.kind.leaves = [] := by
  unfold Path.kind
  split <;> rfl

theorem Relation.condition_draws (relation : Relation) {kind : NodeTest} (unnamed : kind.leaves = [])
    {target : Step} (draws : target.Draws allowed) :
    (relation.condition kind target).Draws allowed .path := by
  cases relation with
  | inside => exact (draws.along .ancestor).expression
  | containing => exact draws_context.descend draws
  | parentOf => exact (draws.along .child).expression
  | childOf => exact (draws.along .parent).expression
  | after => exact (draws.along .preceding).expression
  | afterSibling => exact (draws.along .precedingSibling).expression
  | before => exact (draws.along .following).expression
  | beforeSibling => exact (draws.along .followingSibling).expression
  | immediatelyBefore => exact (nearest_draws .following unnamed draws).expression
  | immediatelyBeforeSibling => exact (nearest_draws .followingSibling unnamed draws).expression
  | immediatelyAfter => exact (nearest_draws .preceding unnamed draws).expression
  | immediatelyAfterSibling => exact (nearest_draws .precedingSibling unnamed draws).expression

theorem Relation.start_draws (relation : Relation) {targets : Expr}
    (targetsDraw : targets.Draws allowed .path) {kind : NodeTest} (unnamed : kind.leaves = [])
    {tail : Step} (draws : tail.Draws allowed) :
    (relation.start targets kind tail).Draws allowed .path := by
  have nearest (axis : Axis) :
      (Expr.walk (.walk targets { axis := some axis, test := kind, predicates := [.number 1] })
        (tail.along .self)).Draws allowed .path :=
    (targetsDraw.walk (first_draws axis unnamed)).walk (draws.along .self)
  cases relation with
  | inside => exact targetsDraw.descend draws
  | childOf => exact targetsDraw.walk draws
  | containing => exact draws.anywhere
  | parentOf => exact draws.anywhere
  | after => exact targetsDraw.walk (draws.along .following)
  | afterSibling => exact targetsDraw.walk (draws.along .followingSibling)
  | before => exact targetsDraw.walk (draws.along .preceding)
  | beforeSibling => exact targetsDraw.walk (draws.along .precedingSibling)
  | immediatelyBefore => exact nearest .preceding
  | immediatelyBeforeSibling => exact nearest .precedingSibling
  | immediatelyAfter => exact nearest .following
  | immediatelyAfterSibling => exact nearest .followingSibling

theorem Relation.start_form {relation : Relation} {targets : Expr} (located : targets.form = .location)
    (kind : NodeTest) (tail : Step) : (relation.start targets kind tail).form = .location := by
  cases relation <;> simp [Relation.start, Expr.form, located, Form.stepped]

theorem memberStep_draws {set : Expr} (draws : set.Draws allowed .path) :
    (memberStep set).Draws allowed := by
  have united : (Expr.binary .union .context set).Draws allowed .union :=
    draws_context.binary rfl draws (by decide)
  have counted : (Expr.count (.binary .union .context set)).Draws allowed .equality :=
    (united.weaken (by decide)).call .count
  apply step_draws rfl (List.nil_subset _)
  intro predicate inside
  have equal := draws_equals counted (count_draws draws).operand
  exact List.mem_singleton.mp inside ▸ equal.weaken (by decide)

theorem siblingCondition_draws {target : Step} (draws : target.Draws allowed) :
    (siblingCondition target).Draws allowed .equality := by
  have either : (Expr.binary .or (.step (target.along .precedingSibling))
      (.step (target.along .followingSibling))).Draws allowed .or :=
    (draws.along .precedingSibling).expression.binary rfl
      (draws.along .followingSibling).expression (by decide : Level.rank .or < Level.rank .and)
  exact either.group

theorem countCondition_draws (comparison : Comparison) (count : Nat) {target : Step}
    (draws : target.Draws allowed) : (countCondition comparison count target).Draws allowed .equality := by
  have counted : (Expr.count (.descend .context target)).Draws allowed .path :=
    count_draws (draws_context.descend draws)
  have compared {operator : Operator} (relational : operator.level = .relational) :
      (Expr.binary operator (.count (.descend .context target)) (.number count)).Draws allowed
        .relational :=
    counted.operand.binary relational (draws_number count)
      (by decide : Level.rank .relational < Level.rank .additive)
  cases comparison with
  | exactly => exact draws_equals counted.operand (draws_number count)
  | atLeast => exact (compared rfl).weaken (by decide)
  | atMost => exact (compared rfl).weaken (by decide)

theorem Node.test_draws {node : Node} (drawn : node.leaves ⊆ allowed) {conditions : List Expr}
    (draws : ∀ condition ∈ conditions, condition.Draws allowed .equality) :
    Step.Draws allowed
      { axis := none
        test := node.test.1
        predicates := Expr.conjunction (node.test.2 ++ conditions) } := by
  have together (own : Expr) (ownDraws : own.Draws allowed .equality) :
      ∀ predicate ∈ Expr.conjunction ([own] ++ conditions), predicate.Draws allowed .or := by
    apply draws_conjunction
    intro condition inside
    rcases List.mem_cons.mp inside with rfl | inside
    · exact ownDraws
    · exact draws condition inside
  cases node with
  | element name =>
      have member : nameLeaf name ∈ allowed := drawn (by simp [Node.leaves])
      unfold nameLeaf at member
      by_cases plain : isPlainName name = true
      · have fits : (NodeTest.name name).fits = true := plain
        rw [if_pos plain] at member
        simp only [Node.test, if_pos plain, List.nil_append]
        refine step_draws fits ?_ (draws_conjunction draws)
        simpa [NodeTest.leaves] using member
      · rw [if_neg plain] at member
        have localName : (Expr.call .localName []).Draws allowed .equality := draws_call _ (by simp)
        simp only [Node.test, if_neg plain]
        exact step_draws rfl (List.nil_subset _)
          (together _ (draws_equals localName (draws_literal member)))
  | text content =>
      have member : Leaf.string content ∈ allowed := drawn (by simp [Node.leaves])
      have normalized : (Expr.call .normalizeSpace [.context]).Draws allowed .equality :=
        draws_context.call .normalizeSpace
      exact step_draws rfl (List.nil_subset _)
        (together _ (draws_equals normalized (draws_literal member)))
  | any => exact step_draws rfl (List.nil_subset _) (draws_conjunction draws)
  | union left right => exact step_draws rfl (List.nil_subset _) (draws_conjunction draws)
  | occurrence path position => exact step_draws rfl (List.nil_subset _) (draws_conjunction draws)

/-! ## Paths -/

theorem draws_singleton {expression : Expr} (draws : expression.Draws allowed .equality) :
    ∀ condition ∈ [expression], condition.Draws allowed .equality := by
  intro condition inside
  exact List.mem_singleton.mp inside ▸ draws

theorem draws_either {left right : Expr} (leftDraws : left.Draws allowed .equality)
    (rightDraws : right.Draws allowed .equality) :
    (Expr.group (.binary .or left right)).Draws allowed .equality := by
  have either : (Expr.binary .or left right).Draws allowed .or :=
    (leftDraws.weaken (by decide)).binary rfl rightDraws (by decide)
  exact either.group

variable {permitted : Relation → Bool}

mutual

theorem Path.query_draws (path : Path) (free : path.uses permitted = true) (fixed : fixedLeaves ⊆ allowed)
    (drawn : path.leaves ⊆ allowed) :
    path.query.Draws allowed .path ∧
      (path.node.isSet = true → path.query.form.isFilter = true) ∧
      (path.opensWithSet = false → path.query.form = .location) := by
  match path with
  | ⟨node, constraints, override⟩ =>
      simp only [Path.uses, Bool.and_eq_true] at free
      obtain ⟨nodeDrawn, constraintsDrawn⟩ := List.append_subset.mp drawn
      simp only [Path.query]
      cases isSet : node.isSet with
      | true =>
          obtain ⟨set, same, draws, isFilter⟩ := Node.set_draws node free.1 isSet fixed nodeDrawn
          obtain ⟨whole, form⟩ := draws.restrict isFilter
            (conditions_draw constraints free.2 fixed constraintsDrawn)
          simp only [same]
          refine ⟨whole, fun _ => form, ?_⟩
          intro located
          simp [Path.opensWithSet, isSet] at located
      | false =>
          have tail := Node.test_draws nodeDrawn
            (remaining_draw constraints free.2 fixed constraintsDrawn)
          obtain ⟨whole, form⟩ := startWith_draws constraints free.2 fixed constraintsDrawn
            (Path.kind_leaves ⟨node, constraints, override⟩) tail
          simp only [Node.set?_eq_none isSet]
          refine ⟨whole, fun impossible => absurd impossible (by simp), ?_⟩
          intro located
          simp only [Path.opensWithSet, isSet, Bool.false_or] at located
          exact form located

theorem Path.step_draws (path : Path) (free : path.uses permitted = true) (fixed : fixedLeaves ⊆ allowed)
    (drawn : path.leaves ⊆ allowed) : path.step.Draws allowed := by
  match path with
  | ⟨node, constraints, override⟩ =>
      simp only [Path.uses, Bool.and_eq_true] at free
      obtain ⟨nodeDrawn, constraintsDrawn⟩ := List.append_subset.mp drawn
      have conditionsDraw := conditions_draw constraints free.2 fixed constraintsDrawn
      simp only [Path.step]
      cases isSet : node.isSet with
      | true =>
          obtain ⟨set, same, draws, isFilter⟩ := Node.set_draws node free.1 isSet fixed nodeDrawn
          simp only [same]
          exact memberStep_draws (draws.restrict isFilter conditionsDraw).1
      | false =>
          simp only [Node.set?_eq_none isSet]
          exact Node.test_draws nodeDrawn conditionsDraw

theorem Node.set_draws (node : Node) (free : node.uses permitted = true) (isSet : node.isSet = true)
    (fixed : fixedLeaves ⊆ allowed) (drawn : node.leaves ⊆ allowed) :
    ∃ set, node.set? = some set ∧ set.Draws allowed .path ∧ set.form.isFilter = true := by
  match node with
  | .element name => exact absurd isSet (by simp [Node.isSet])
  | .any => exact absurd isSet (by simp [Node.isSet])
  | .text content => exact absurd isSet (by simp [Node.isSet])
  | .union left right =>
      simp only [Node.uses, Bool.and_eq_true] at free
      obtain ⟨leftDrawn, rightDrawn⟩ := List.append_subset.mp drawn
      have leftDraws := (Path.query_draws left free.1 fixed leftDrawn).1
      have rightDraws := (Path.query_draws right free.2 fixed rightDrawn).1
      have united : (Expr.binary .union left.query right.query).Draws allowed .union :=
        leftDraws.operand.binary rfl rightDraws (by decide)
      exact ⟨_, rfl, (united.weaken (by decide)).group, rfl⟩
  | .occurrence path position =>
      have draws := (Path.query_draws path free fixed drawn).1
      have place : position.predicate.Draws allowed .or := by
        cases position with
        | nth index => exact draws_number index
        | last => exact draws_call .last (by simp)
      exact ⟨_, rfl, draws.operand.group.filter rfl place, rfl⟩

theorem startWith_draws (constraints : List Constraint) (free : allUse permitted constraints = true)
    (fixed : fixedLeaves ⊆ allowed) (drawn : constraintLeaves constraints ⊆ allowed) {kind : NodeTest}
    (unnamed : kind.leaves = []) {tail : Step} (draws : tail.Draws allowed) :
    (startWith kind tail constraints).Draws allowed .path ∧
      (leadOpensWithSet constraints = false → (startWith kind tail constraints).form = .location) := by
  match constraints with
  | [] => exact ⟨draws.anywhere, fun _ => rfl⟩
  | .relation relation target :: others =>
      simp only [allUse, Bool.and_eq_true] at free
      obtain ⟨targetDrawn, othersDrawn⟩ := List.append_subset.mp drawn
      simp only [startWith, leadOpensWithSet]
      cases relation.leads with
      | true =>
          obtain ⟨targets, -, form⟩ := Path.query_draws target free.1.2 fixed targetDrawn
          refine ⟨relation.start_draws targets unnamed draws, ?_⟩
          intro located
          exact Relation.start_form (form located) kind tail
      | false => exact startWith_draws others free.2 fixed othersDrawn unnamed draws
  | .property property :: others =>
      simp only [allUse, Bool.and_eq_true] at free
      exact startWith_draws others free.2 fixed (List.append_subset.mp drawn).2 unnamed draws

theorem remaining_draw (constraints : List Constraint) (free : allUse permitted constraints = true)
    (fixed : fixedLeaves ⊆ allowed) (drawn : constraintLeaves constraints ⊆ allowed) :
    ∀ condition ∈ remaining constraints, condition.Draws allowed .equality := by
  match constraints with
  | [] => simp [remaining]
  | .relation relation target :: others =>
      simp only [allUse, Bool.and_eq_true] at free
      obtain ⟨targetDrawn, othersDrawn⟩ := List.append_subset.mp drawn
      simp only [remaining]
      cases relation.leads with
      | true => exact conditions_draw others free.2 fixed othersDrawn
      | false =>
          have step := Path.step_draws target free.1.2 fixed targetDrawn
          intro condition inside
          rcases List.mem_cons.mp inside with rfl | inside
          · exact (relation.condition_draws target.kind_leaves step).operand
          · exact remaining_draw others free.2 fixed othersDrawn condition inside
  | .property property :: others =>
      simp only [allUse, Bool.and_eq_true] at free
      obtain ⟨propertyDrawn, othersDrawn⟩ := List.append_subset.mp drawn
      intro condition inside
      rcases List.mem_append.mp inside with inside | inside
      · exact Property.conjuncts_draw property free.1 fixed propertyDrawn condition inside
      · exact remaining_draw others free.2 fixed othersDrawn condition inside

theorem conditions_draw (constraints : List Constraint) (free : allUse permitted constraints = true)
    (fixed : fixedLeaves ⊆ allowed) (drawn : constraintLeaves constraints ⊆ allowed) :
    ∀ condition ∈ conditions constraints, condition.Draws allowed .equality := by
  match constraints with
  | [] => simp [conditions]
  | .relation relation target :: others =>
      simp only [allUse, Bool.and_eq_true] at free
      obtain ⟨targetDrawn, othersDrawn⟩ := List.append_subset.mp drawn
      have step := Path.step_draws target free.1.2 fixed targetDrawn
      intro condition inside
      rcases List.mem_cons.mp inside with rfl | inside
      · exact (relation.condition_draws target.kind_leaves step).operand
      · exact conditions_draw others free.2 fixed othersDrawn condition inside
  | .property property :: others =>
      simp only [allUse, Bool.and_eq_true] at free
      obtain ⟨propertyDrawn, othersDrawn⟩ := List.append_subset.mp drawn
      intro condition inside
      rcases List.mem_append.mp inside with inside | inside
      · exact Property.conjuncts_draw property free.1 fixed propertyDrawn condition inside
      · exact conditions_draw others free.2 fixed othersDrawn condition inside

theorem Property.conjuncts_draw (property : Property) (free : property.uses permitted = true)
    (fixed : fixedLeaves ⊆ allowed) (drawn : property.leaves ⊆ allowed) :
    ∀ condition ∈ property.conjuncts, condition.Draws allowed .equality := by
  match property with
  | .and left right =>
      simp only [Property.uses, Bool.and_eq_true] at free
      obtain ⟨leftDrawn, rightDrawn⟩ := List.append_subset.mp drawn
      intro condition inside
      rcases List.mem_append.mp inside with inside | inside
      · exact Property.conjuncts_draw left free.1 fixed leftDrawn condition inside
      · exact Property.conjuncts_draw right free.2 fixed rightDrawn condition inside
  | .test test => exact draws_singleton (test.condition_draws fixed drawn)
  | .related relation target =>
      simp only [Property.uses, Bool.and_eq_true] at free
      have step := Path.step_draws target free.2 fixed drawn
      exact draws_singleton (relation.condition_draws target.kind_leaves step).operand
  | .siblingOf target =>
      exact draws_singleton (siblingCondition_draws (Path.step_draws target free fixed drawn))
  | .occurrences comparison count target =>
      have step := Path.step_draws target free fixed drawn
      exact draws_singleton (countCondition_draws comparison count step)
  | .custom fragment phrase => exact absurd free (by simp [Property.uses])
  | .or left right =>
      simp only [Property.uses, Bool.and_eq_true] at free
      obtain ⟨leftDrawn, rightDrawn⟩ := List.append_subset.mp drawn
      have leftDraws := Property.condition_draws left free.1 fixed leftDrawn
      have rightDraws := Property.condition_draws right free.2 fixed rightDrawn
      exact draws_singleton (draws_either leftDraws rightDraws)
  | .not inner =>
      have draws := Property.condition_draws inner free fixed drawn
      exact draws_singleton ((draws.weaken (by decide)).call .not)

theorem Property.condition_draws (property : Property) (free : property.uses permitted = true)
    (fixed : fixedLeaves ⊆ allowed) (drawn : property.leaves ⊆ allowed) :
    property.condition.Draws allowed .equality := by
  match property with
  | .and left right =>
      simp only [Property.uses, Bool.and_eq_true] at free
      obtain ⟨leftDrawn, rightDrawn⟩ := List.append_subset.mp drawn
      have leftDraws := Property.condition_draws left free.1 fixed leftDrawn
      have rightDraws := Property.condition_draws right free.2 fixed rightDrawn
      have both : (Expr.binary .and left.condition right.condition).Draws allowed .and :=
        (leftDraws.weaken (by decide)).binary rfl rightDraws (by decide)
      exact (both.weaken (by decide)).group
  | .test test => exact test.condition_draws fixed drawn
  | .related relation target =>
      simp only [Property.uses, Bool.and_eq_true] at free
      have step := Path.step_draws target free.2 fixed drawn
      exact (relation.condition_draws target.kind_leaves step).operand
  | .siblingOf target => exact siblingCondition_draws (Path.step_draws target free fixed drawn)
  | .occurrences comparison count target =>
      exact countCondition_draws comparison count (Path.step_draws target free fixed drawn)
  | .custom fragment phrase => exact absurd free (by simp [Property.uses])
  | .or left right =>
      simp only [Property.uses, Bool.and_eq_true] at free
      obtain ⟨leftDrawn, rightDrawn⟩ := List.append_subset.mp drawn
      have leftDraws := Property.condition_draws left free.1 fixed leftDrawn
      have rightDraws := Property.condition_draws right free.2 fixed rightDrawn
      exact draws_either leftDraws rightDraws
  | .not inner =>
      have draws := Property.condition_draws inner free fixed drawn
      exact (draws.weaken (by decide)).call .not

end

end Locator
