import Locator.Path.Query
import Locator.Proofs.XPath.Sets
import Locator.Proofs.XPath.Wildcard

/-!
# What tests compile to

Every test on a node stands for the condition that it describes.
-/

namespace Locator

open Locator.XPath

set_option autoImplicit false

variable {document : Document}

/-! ## Attributes -/

theorem flatMap_eq_of_single {Item Result : Type} {items : List Item} {item : Item}
    (once : items.Nodup) (member : item ∈ items) (results : Item → List Result)
    (elsewhere : ∀ other ∈ items, other ≠ item → results other = []) :
    items.flatMap results = results item := by
  induction items with
  | nil => exact absurd member (by simp)
  | cons first others ih =>
      obtain ⟨fresh, once⟩ := List.nodup_cons.mp once
      rw [List.flatMap_cons]
      rcases List.mem_cons.mp member with same | later
      · subst same
        have rest : others.flatMap results = [] := by
          rw [List.flatMap_eq_nil_iff]
          intro other inside
          apply elsewhere other (List.mem_cons_of_mem item inside)
          intro equal
          subst equal
          exact fresh inside
        rw [rest, List.append_nil]
      · have notFirst : first ≠ item := by
          intro equal
          subst equal
          exact fresh later
        rw [elsewhere first (by simp) notFirst, List.nil_append]
        apply ih once later
        intro other inside
        exact elsewhere other (List.mem_cons_of_mem first inside)

/-- The attribute nodes of an element, in the order in which they are written. -/
theorem filter_sites_attributes {address : Address} (member : address ∈ document.addresses) :
    document.sites.filter (Axis.reaches .attributes (.node address)) =
      (List.range (document.attributes address).length).map (Site.ofAttribute address) := by
  simp only [Document.sites]
  rw [List.filter_cons_of_neg (by simp [Axis.reaches]), List.filter_flatMap,
    flatMap_eq_of_single document.addresses_nodup member]
  · rw [List.filter_cons_of_neg (by simp [Axis.reaches]), List.filter_eq_self]
    intro site inside
    obtain ⟨index, -, rfl⟩ := List.mem_map.mp inside
    simp [Axis.reaches]
  · intro other _ different
    rw [List.filter_eq_nil_iff]
    intro site inside
    rcases List.mem_cons.mp inside with rfl | inside
    · simp [Axis.reaches]
    · obtain ⟨index, -, rfl⟩ := List.mem_map.mp inside
      simpa [Axis.reaches] using Ne.symm different

theorem map_attributeAt (address : Address) :
    (List.range (document.attributes address).length).map (document.attributeAt address) =
      document.attributes address := by
  apply List.ext_getElem
  · simp
  · intro index bound bound'
    simp only [List.getElem_map, List.getElem_range, Document.attributeAt]
    rw [List.getElem?_eq_getElem bound', Option.getD_some]

/-- A step to the attributes with a name leads to the attributes with that name, however the name has to
be written. -/
theorem reach_attributeNamed (name : String) {address : Address} (position size : Nat) :
    (attributeNamed name).eval document ⟨.node address, position, size⟩ =
      some (.sites ((document.sites.filter (Axis.reaches .attributes (.node address))).filter
        fun site => document.localName site == name)) := by
  -- The nodes along the axis are attributes, so they are what the axis is for.
  have principal (site : Site) (along : site ∈ document.along .attributes (.node address)) :
      document.isPrincipal .attributes site = true := by
    have reached := (Document.mem_along.mp along).2
    cases site <;> simp_all [Axis.reaches, Document.isPrincipal]
  have reached : ∃ step, attributeNamed name = .step step ∧
      step.reach document (.node address) =
        some ((document.along .attributes (.node address)).filter
          fun site => document.localName site == name) := by
    unfold attributeNamed
    split
    · refine ⟨_, rfl, ?_⟩
      simp only [Step.reach, Option.getD_some, narrow]
      congr 1
      apply List.filter_congr
      intro site along
      simp [NodeTest.keeps, principal site along]
    · refine ⟨_, rfl, ?_⟩
      simp only [Step.reach, Option.getD_some, narrow, Option.bind_eq_bind]
      rw [retain_eq_filter fun site => document.localName site == name]
      · rw [Option.bind_some, List.filter_filter]
        congr 1
        apply List.filter_congr
        intro site along
        simp [NodeTest.keeps, principal site along]
      · intro site _ position
        refine ⟨.truth ((document.localName site).toList == name.toList), rfl, ?_⟩
        simp only [Value.accepts, Value.holds]
        rw [Bool.eq_iff_iff, beq_iff_eq, beq_iff_eq, String.toList_inj]
  rcases reached with ⟨step, same, reached⟩
  rw [same, eval_step, reached, Option.bind_some, List.filter_filter,
    Document.gather_eq_filter]
  intro site inside
  rw [List.mem_filter, Document.mem_along]
  simp [inside, and_comm]

/-- The values of the attributes with a name. -/
theorem eval_attributeNamed (name : String) {address : Address}
    (member : address ∈ document.addresses) (position size : Nat) :
    ∃ found, (attributeNamed name).eval document ⟨.node address, position, size⟩ =
        some (.sites found) ∧
      found.map document.stringValue =
        ((document.attributes address).filter (·.1 == name)).map (·.2.toList) := by
  refine ⟨_, reach_attributeNamed name position size, ?_⟩
  rw [filter_sites_attributes member]
  conv => rhs; rw [← map_attributeAt address]
  rw [List.filter_map, List.filter_map, List.map_map, List.map_map]
  rfl

theorem means_attributeNamed (name : String) :
    (attributeNamed name).Means document fun address => document.hasAttribute address name := by
  apply Expr.means_of_sites
  intro address member position size
  obtain ⟨found, evaluated, values⟩ := eval_attributeNamed name member position size
  refine ⟨found, evaluated, ?_⟩
  have sizes := congrArg List.isEmpty values
  rw [List.isEmpty_map, List.isEmpty_map] at sizes
  rw [sizes, Bool.eq_iff_iff]
  simp [Document.hasAttribute]

theorem readAs_attributeNamed (name : String) :
    (attributeNamed name).ReadAs document fun address => document.attributeText address name := by
  intro address member position size
  obtain ⟨found, evaluated, values⟩ := eval_attributeNamed name member position size
  refine ⟨_, evaluated, ?_⟩
  simp only [Value.string, Document.attributeText]
  rw [← List.head?_map, values, List.head?_map, List.head?_filter]

theorem attributeNamed_equals (name value : String) :
    (Expr.equals (attributeNamed name) (.literal value)).Means document fun address =>
      document.attributeIs address name value := by
  apply Expr.means_of_truth
  intro address member position size
  obtain ⟨found, evaluated, values⟩ := eval_attributeNamed name member position size
  have same : (found.any fun site => document.stringValue site == value.toList) =
      document.attributeIs address name value := by
    have mapped := congrArg (List.any · (· == value.toList)) values
    simp only [List.any_map, List.any_filter, Function.comp_def] at mapped
    rw [mapped, Document.attributeIs]
    congr 1
    funext entry
    rw [Bool.eq_iff_iff]
    simp [String.toList_inj]
  simp [Expr.equals, Expr.eval, evaluated, applyOperator, Value.equals?, same]

/-! ## Text -/

theorem hasText_aggregatedText :
    Test.aggregatedText.HasText document fun address => normalizeSpace (document.words address) := by
  apply Expr.hasText_of_characters
  intro address member position size
  simp [Test.aggregatedText, Expr.eval, evalAll, applyFunction, Value.string, Document.stringValue]

theorem textCondition_means {subject : Expr} {text : Address → List Char}
    (hasText : subject.HasText document text) (comparison : TextMatch) (value : String) :
    (Test.textCondition subject comparison value).Means document fun address =>
      comparison.holds (text address) value.toList := by
  cases comparison with
  | equals => exact hasText.equals_literal value
  | contains => exact hasText.contains value
  | startsWith => exact hasText.startsWith value
  | endsWith => exact hasText.endsWith value
  | pattern => exact hasText.wildcard value

theorem ownText_equals_means (value : String) :
    (Expr.equals (Test.ownText []) (.literal value)).Means document fun address =>
      document.addresses.any fun child =>
        document.isText child && Address.isParent address child &&
          document.words child == value.toList := by
  have keeps : Step.Keeps document { axis := none, test := .text, predicates := [] }
      fun child => document.isText child && true :=
    keeps_of_conditions (by decide) allMean_nil
  have leads := keeps.leads_child
  apply Expr.means_of_truth
  intro address member position size
  have evaluated := leads.eval address member position size
  rw [document.filter_sites_lift _ (leads.outside address)] at evaluated
  simp only [Expr.equals, Test.ownText, Expr.eval] at evaluated ⊢
  rw [evaluated]
  simp [applyOperator, Value.equals?, Document.stringValue, List.any_filter]

theorem ownText_means (comparison : TextMatch) (value : String) :
    (Test.ownText [Test.textCondition .context comparison value]).Means document fun address =>
      document.addresses.any fun child =>
        document.isText child && Address.isParent address child &&
          comparison.holds (document.words child) value.toList := by
  have keeps : Step.Keeps document
      { axis := none, test := .text, predicates := [Test.textCondition .context comparison value] }
      fun child => document.isText child && comparison.holds (document.words child) value.toList :=
    keeps_of_conditions (by decide)
      (allMean_singleton (textCondition_means hasText_context comparison value))
  refine keeps.leads_child.means.congr ?_
  intro address _
  congr 1
  funext child
  exact Bool.and_right_comm _ _ _

/-! ## Numbers of elements -/

/-- The step `*`. -/
theorem keeps_elements :
    Step.Keeps document { axis := none, test := .principal, predicates := [] } document.isElement := by
  have keeps : Step.Keeps document { axis := none, test := .principal, predicates := [] }
      fun address => document.isElement address && true :=
    keeps_of_conditions (by decide) allMean_nil
  simpa only [Bool.and_true] using keeps

theorem siblings_leads (axis : Axis) (notAttributes : axis ≠ .attributes) :
    (Test.siblings axis).Leads document fun address other =>
      document.isElement other && axis.reaches (.node address) (.node other) :=
  keeps_elements.leads notAttributes

theorem children_leads :
    Test.children.Leads document fun address other =>
      document.isElement other && Address.isParent address other :=
  keeps_elements.leads_child

/-! ## All tests -/

theorem Test.condition_means (test : Test) : test.condition.Means document (test.holds document) := by
  cases test with
  | hasAttribute name => exact means_attributeNamed name
  | attributeEquals name value => exact attributeNamed_equals name value
  | attributeHasWord name word => exact (readAs_attributeNamed name).hasWord word
  | attributeContains name value => exact (readAs_attributeNamed name).contains value
  | hasId id => exact attributeNamed_equals "id" id
  | hasClass name => exact (readAs_attributeNamed "class").hasWord name
  | hasAnyClass names =>
      exact means_joined_or names _ _ fun name => (readAs_attributeNamed "class").hasWord name
  | hasAllClasses names =>
      exact (allMean_map names _ _ fun name => (readAs_attributeNamed "class").hasWord name).joined
  | classContains fragment => exact (readAs_attributeNamed "class").contains fragment
  | text scope comparison value =>
      cases scope with
      | own =>
          cases comparison with
          | equals => exact ownText_equals_means value
          | contains => exact ownText_means .contains value
          | startsWith => exact ownText_means .startsWith value
          | endsWith => exact ownText_means .endsWith value
          | pattern => exact ownText_means .pattern value
      | aggregated => exact textCondition_means hasText_aggregatedText comparison value
  | sibling place =>
      cases place with
      | nth index => exact (siblings_leads .precedingSibling (by decide)).count_equals index
      | last => exact (siblings_leads .followingSibling (by decide)).count_equals 0
      | only => exact keeps_elements.leads_parent.count_equals 1
  | childCount count => exact children_leads.count_equals count
  | hasChildren => exact children_leads.count_means greater_numbers 0
  | noChildren => exact children_leads.count_equals 0
  | state state =>
      cases state with
      | checked => exact means_attributeNamed "checked"
      | selected => exact means_attributeNamed "selected"
      | disabled => exact means_attributeNamed "disabled"
      | enabled => exact (means_attributeNamed "disabled").negate

end Locator
