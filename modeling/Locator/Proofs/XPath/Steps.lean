import Locator.Proofs.XPath.Conditions

/-!
# Steps and sets

What steps with predicates lead to, what sets they make, and the two ways to go on from a set.
-/

namespace Locator.XPath

set_option autoImplicit false

variable {document : Document}

/-! ## Predicates on lists of nodes -/

theorem reachAll_eq_flatMap {reach : Site → Option (List Site)} (found : Site → List Site)
    {starts : List Site} (reached : ∀ start ∈ starts, reach start = some (found start)) :
    reachAll reach starts = some (starts.flatMap found) := by
  induction starts with
  | nil => rfl
  | cons start starts ih =>
      have first := reached start (by simp)
      have others := ih fun other member => reached other (by simp [member])
      simp [reachAll, first, others]

/-- A predicate that does not look at the position keeps the nodes that satisfy its condition. -/
theorem retain_eq_filter {predicate : Context → Option Value} (condition : Site → Bool) {size : Nat}
    (sites : List Site) (start : Nat)
    (accepts : ∀ site ∈ sites, ∀ position, ∃ value,
      predicate ⟨site, position, size⟩ = some value ∧ value.accepts position = condition site) :
    retain predicate size start sites = some (sites.filter condition) := by
  induction sites generalizing start with
  | nil => rfl
  | cons site sites ih =>
      obtain ⟨value, evaluated, same⟩ := accepts site (by simp) start
      have others := ih (start + 1) fun other member => accepts other (by simp [member])
      simp only [retain, evaluated, others, Option.bind_eq_bind, Option.bind_some]
      rw [same, List.filter_cons]
      rfl

theorem accepts_of_not_number {value : Value} (noNumber : value.isNumber = false) (position : Nat) :
    value.accepts position = value.holds := by
  cases value <;> simp_all [Value.isNumber, Value.accepts]

/-- A number as a predicate keeps the node with this position, counted from one. -/
theorem retain_number {predicate : Context → Option Value} {size : Nat} (index : Nat)
    (sites : List Site) (start : Nat)
    (evaluated : ∀ site position, predicate ⟨site, position, size⟩ = some (.number index)) :
    retain predicate size start sites =
      some (if start ≤ index then (sites[index - start]?).toList else []) := by
  induction sites generalizing start with
  | nil => simp [retain]
  | cons site sites ih =>
      simp only [retain, evaluated, ih (start + 1), Option.bind_eq_bind, Option.bind_some,
        Value.accepts]
      rcases Nat.lt_trichotomy start index with less | same | greater
      · have place : index - start = index - (start + 1) + 1 := by omega
        have different : ((index : Int) == (start : Int)) = false := by
          rw [beq_eq_false_iff_ne]
          omega
        have reached : start + 1 ≤ index := less
        have early : start ≤ index := by omega
        simp [different, reached, early, place]
      · subst same
        have later : ¬ start + 1 ≤ start := by omega
        simp [later]
      · have different : ((index : Int) == (start : Int)) = false := by
          rw [beq_eq_false_iff_ne]
          omega
        have late : ¬ start ≤ index := by omega
        have later : ¬ start + 1 ≤ index := by omega
        simp [different, late, later]

/-- A number as a predicate that asks for the last position. -/
theorem retain_last {predicate : Context → Option Value} (sites : List Site) (start : Nat)
    (evaluated : ∀ site position,
      predicate ⟨site, position, start + sites.length - 1⟩ =
        some (.number ((start + sites.length - 1 : Nat) : Int))) :
    retain predicate (start + sites.length - 1) start sites = some sites.getLast?.toList := by
  rw [retain_number _ sites start evaluated]
  cases sites with
  | nil => simp
  | cons site sites =>
      have reached : start ≤ start + (site :: sites).length - 1 := by
        simp only [List.length_cons]
        omega
      have place : start + (site :: sites).length - 1 - start = (site :: sites).length - 1 := by omega
      rw [if_pos reached, place, List.getLast?_eq_getElem?]

theorem narrow_conjunction {expressions : List Expr} {condition : Address → Bool}
    (means : AllMean document expressions condition) (sites : List Site)
    (nodes : ∀ site ∈ sites, ∃ address, site = .node address ∧ address ∈ document.addresses) :
    narrow document (Expr.conjunction expressions) sites =
      some (sites.filter (Site.lift condition)) := by
  match expressions with
  | [] =>
      have everything : sites.filter (Site.lift condition) = sites := by
        rw [List.filter_eq_self]
        intro site member
        obtain ⟨address, rfl, inside⟩ := nodes site member
        obtain ⟨values, evaluated, -, holds⟩ := means address inside 1 1
        cases evaluated
        exact holds.symm
      rw [everything]
      rfl
  | first :: others =>
      have together := means.foldl_and
      simp only [Expr.conjunction, Expr.chain, Option.toList_some, narrow, Option.bind_eq_bind]
      rw [retain_eq_filter _ sites 1]
      · rfl
      · intro site member position
        obtain ⟨address, rfl, inside⟩ := nodes site member
        obtain ⟨value, evaluated, noNumber, holds⟩ := together address inside position sites.length
        exact ⟨value, evaluated, (accepts_of_not_number noNumber position).trans holds⟩

/-! ## Steps -/

/-- Whether a node test keeps an element or text node. -/
def NodeTest.admits (document : Document) : NodeTest → Address → Bool
  | .name label, address => (document.at? address).any (Tree.hasName label)
  | .principal, address => document.isElement address
  | .text, address => document.isText address
  | .node, _ => true

theorem NodeTest.keeps_eq_lift {test : NodeTest} {axis : Axis} (notNode : test ≠ .node)
    (notAttributes : axis ≠ .attributes) (site : Site) :
    test.keeps document axis site = Site.lift (test.admits document) site := by
  have element : (axis != .attributes) = true := by simpa using notAttributes
  cases site with
  | node address =>
      cases test with
      | name label =>
          simp only [NodeTest.keeps, Document.isPrincipal, Site.lift, NodeTest.admits, element,
            Document.isElement, Document.localName, Bool.true_and]
          rcases document.at? address with _ | (_ | _) <;> simp [Tree.hasName, Tree.isElement]
      | principal => simp [NodeTest.keeps, Document.isPrincipal, Site.lift, NodeTest.admits, element]
      | text => rfl
      | node => exact absurd rfl notNode
  | ofAttribute owner index =>
      cases test <;> simp_all [NodeTest.keeps, Document.isPrincipal, Site.lift]

theorem NodeTest.admits_outside {test : NodeTest} (notNode : test ≠ .node) :
    test.admits document [] = false := by
  cases test <;> first | exact absurd rfl notNode | rfl

theorem Step.reach_eq {step : Step} (unwritten : step.axis = none) (start : Site) :
    step.reach document start = (step.along .child).reach document start := by
  rcases step with ⟨axis, test, predicates⟩
  cases unwritten
  rfl

/-- A step with a predicate for the conditions keeps what its node test and the conditions admit. -/
theorem keeps_of_conditions {test : NodeTest} {expressions : List Expr} {condition : Address → Bool}
    (notNode : test ≠ .node) (means : AllMean document expressions condition) :
    Step.Keeps document { axis := none, test, predicates := Expr.conjunction expressions }
      fun address => test.admits document address && condition address where
  unwritten := rfl
  outside := by simp [NodeTest.admits_outside notNode]
  along := by
    intro axis notAttributes start
    simp only [Step.along, Step.reach, Option.getD_some]
    rw [narrow_conjunction means]
    · congr 1
      rw [List.filter_filter]
      apply List.filter_congr
      intro site _
      rw [NodeTest.keeps_eq_lift notNode notAttributes]
      cases site <;> simp [Site.lift, Bool.and_comm]
    · intro site member
      have kept := (List.mem_filter.mp member).2
      exact Document.keeps_is_node notNode notAttributes kept

theorem length_filter_or_eq_iff {Item : Type} [BEq Item] [LawfulBEq Item] (items : List Item)
    (item : Item) (member : item ∈ items) (condition : Item → Bool) :
    ((items.filter fun other => other == item || condition other).length =
      (items.filter condition).length) ↔ condition item = true := by
  constructor
  · intro same
    by_cases holds : condition item = true
    · exact holds
    · -- The smaller set is all of the larger one, so the item is in it after all.
      have narrower : items.filter condition =
          (items.filter fun other => other == item || condition other).filter condition := by
        rw [List.filter_filter]
        apply List.filter_congr
        intro other _
        cases condition other <;> simp
      rw [narrower] at same
      have found : item ∈ items.filter fun other => other == item || condition other := by
        simp [member]
      exact List.length_filter_eq_length_iff.mp same.symm item found
  · intro holds
    congr 1
    apply List.filter_congr
    intro other _
    by_cases same : other = item
    · simp [same, holds]
    · simp [same]

/-- Adding a node to a set leaves the size as it is just when the node is in the set already. -/
theorem Expr.Selects.member_keeps {set : Expr} {condition : Address → Bool}
    (selects : set.Selects document condition) :
    Step.Keeps document
      { axis := none
        test := .node
        predicates := [.equals (.count (.binary .union .context set)) (.count set)] }
      condition where
  unwritten := rfl
  outside := selects.outside
  along := by
    intro axis _ start
    simp only [Step.along, Step.reach, Option.getD_some, narrow, Option.bind_eq_bind]
    rw [retain_eq_filter (Site.lift condition)]
    · rw [Option.bind_some, List.filter_filter]
      congr 1
      apply List.filter_congr
      intro site _
      simp [NodeTest.keeps]
    · intro site member position
      have inside : site ∈ document.sites :=
        (Document.mem_along.mp (List.mem_filter.mp member).1).1
      have joined : document.gather ([site] ++ document.sites.filter (Site.lift condition)) =
          document.sites.filter fun other => other == site || Site.lift condition other := by
        apply Document.gather_eq_filter
        intro other otherInside
        simp [otherInside]
      have sizes := length_filter_or_eq_iff document.sites site inside (Site.lift condition)
      refine ⟨.truth (Site.lift condition site), ?_, rfl⟩
      simp only [Expr.equals, Expr.count, Expr.eval, evalAll, selects.eval, applyOperator, applyFunction,
        Option.bind_eq_bind, Option.bind_some, Option.pure_def, joined, Value.equals?, Option.map_some]
      congr 2
      rw [Bool.eq_iff_iff, ← sizes, beq_iff_eq]
      exact Int.ofNat_inj

end Locator.XPath
