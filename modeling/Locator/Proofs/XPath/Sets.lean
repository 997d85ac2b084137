import Locator.Proofs.XPath.Steps

/-!
# Sets of nodes

What the constructs that make sets select, and what expressions lead to from one node. An expression that
leads somewhere can be used as a condition (something is there) and be counted.
-/

namespace Locator.XPath

set_option autoImplicit false

variable {document : Document}

/-- From every element and text node the expression leads to the elements and text nodes that stand in a
relation to it. -/
structure Expr.Leads (document : Document) (expression : Expr) (relation : Address → Address → Bool) :
    Prop where
  outside : ∀ address, relation address [] = false
  eval : ∀ address ∈ document.addresses, ∀ position size,
    expression.eval document ⟨.node address, position, size⟩ =
      some (.sites (document.sites.filter (Site.lift (relation address))))

theorem isEmpty_filter_lift {condition : Address → Bool} (root : condition [] = false) :
    (!(document.sites.filter (Site.lift condition)).isEmpty) = document.addresses.any condition := by
  rw [document.filter_sites_lift condition root, List.isEmpty_map]
  induction document.addresses with
  | nil => rfl
  | cons address addresses ih =>
      by_cases holds : condition address = true
      · simp [holds]
      · simpa [holds] using ih

theorem length_filter_lift {condition : Address → Bool} (root : condition [] = false) :
    (document.sites.filter (Site.lift condition)).length =
      (document.addresses.filter condition).length := by
  rw [document.filter_sites_lift condition root, List.length_map]

theorem Expr.Leads.means {expression : Expr} {relation : Address → Address → Bool}
    (leads : expression.Leads document relation) :
    expression.Means document fun address => document.addresses.any (relation address) := by
  apply Expr.means_of_sites
  intro address member position size
  exact ⟨_, leads.eval address member position size, isEmpty_filter_lift (leads.outside address)⟩

theorem Expr.Leads.eval_count {expression : Expr} {relation : Address → Address → Bool}
    (leads : expression.Leads document relation) {address : Address}
    (member : address ∈ document.addresses) (position size : Nat) :
    expression.count.eval document ⟨.node address, position, size⟩ =
      some (.number ((document.addresses.filter (relation address)).length : Nat)) := by
  simp only [Expr.count, Expr.eval, evalAll, leads.eval address member, Option.bind_eq_bind,
    Option.bind_some, Option.pure_def, applyFunction, length_filter_lift (leads.outside address)]

theorem Expr.Leads.count_means {set : Expr} {relation : Address → Address → Bool}
    (leads : set.Leads document relation) {operator : Operator} {compare : Nat → Nat → Bool}
    (applied : ∀ left right : Nat,
      applyOperator document operator (.number left) (.number right) =
        some (.truth (compare left right)))
    (number : Nat) :
    (Expr.binary operator (.count set) (.number number)).Means document fun address =>
      compare (document.addresses.filter (relation address)).length number := by
  apply Expr.means_of_truth
  intro address member position size
  rw [Expr.eval, leads.eval_count member position size]
  simp only [Expr.eval, Option.bind_eq_bind, Option.bind_some, applied]

theorem equal_numbers (left right : Nat) :
    applyOperator document .equal (.number left) (.number right) = some (.truth (left == right)) := by
  have same : ((left : Int) == (right : Int)) = (left == right) := by
    rw [Bool.eq_iff_iff, beq_iff_eq, beq_iff_eq, Int.ofNat_inj]
  simp only [applyOperator, Value.equals?, same, Option.map_some]

theorem greater_numbers (left right : Nat) :
    applyOperator document .greater (.number left) (.number right) =
      some (.truth (decide (right < left))) := by
  simp [applyOperator, Value.numbers?, Value.number?]

theorem atLeast_numbers (left right : Nat) :
    applyOperator document .atLeast (.number left) (.number right) =
      some (.truth (decide (right ≤ left))) := by
  simp [applyOperator, Value.numbers?, Value.number?]

theorem atMost_numbers (left right : Nat) :
    applyOperator document .atMost (.number left) (.number right) =
      some (.truth (decide (left ≤ right))) := by
  simp [applyOperator, Value.numbers?, Value.number?]

theorem Expr.Leads.count_equals {set : Expr} {relation : Address → Address → Bool}
    (leads : set.Leads document relation) (number : Nat) :
    (Expr.equals (.count set) (.number number)).Means document fun address =>
      (document.addresses.filter (relation address)).length == number :=
  leads.count_means equal_numbers number

/-! ## From one node -/

theorem Step.Keeps.leads {step : Step} {condition : Address → Bool}
    (keeps : step.Keeps document condition) {axis : Axis} (notAttributes : axis ≠ .attributes) :
    (Expr.step (step.along axis)).Leads document fun address other =>
      condition other && axis.reaches (.node address) (.node other) where
  outside := by simp [keeps.outside]
  eval := by
    intro address member position size
    simp only [Expr.eval, keeps.along axis notAttributes, Option.bind_eq_bind, Option.bind_some,
      Option.pure_def]
    rw [Document.gather_eq_filter]
    intro site inside
    rw [List.mem_filter, Document.mem_along]
    cases site <;> simp [Site.lift, inside, and_comm]

theorem Step.Keeps.leads_child {step : Step} {condition : Address → Bool}
    (keeps : step.Keeps document condition) :
    (Expr.step step).Leads document fun address other =>
      condition other && Address.isParent address other where
  outside := by simp [keeps.outside]
  eval := by
    intro address member position size
    have along := (keeps.leads (by decide : Axis.child ≠ .attributes)).eval address member position size
    simp only [Expr.eval] at along ⊢
    rw [Step.reach_eq keeps.unwritten]
    exact along

/-- The nearest node of a kind along an axis. -/
def nearest (document : Document) (axis : Axis) (kind : NodeTest) (start : Address) : Option Site :=
  ((document.along axis (.node start)).filter (kind.keeps document axis)).head?

theorem nearest_mem_sites {axis : Axis} {kind : NodeTest} {start : Address} {site : Site}
    (found : nearest document axis kind start = some site) : site ∈ document.sites := by
  have member := List.mem_of_mem_head? found
  exact (Document.mem_along.mp (List.mem_filter.mp member).1).1

/-- The predicate `[1]` keeps the first node. -/
theorem narrow_first (predicates : List Expr) (sites : List Site) :
    narrow document (.number 1 :: predicates) sites = narrow document predicates sites.head?.toList := by
  simp only [narrow, Option.bind_eq_bind]
  rw [retain_number 1 sites 1 (fun site position => rfl)]
  simp [List.head?_eq_getElem?]

theorem eval_step (step : Step) (context : Context) :
    (Expr.step step).eval document context =
      (step.reach document context.site).bind fun found => some (.sites (document.gather found)) := rfl

/-- A step to the context node itself, as a predicate, keeps the nodes that the step keeps. -/
theorem Step.Keeps.narrow_self {step : Step} {condition : Address → Bool}
    (keeps : step.Keeps document condition) (sites : List Site)
    (inside : ∀ site ∈ sites, site ∈ document.sites) :
    narrow document [.step (step.along .self)] sites = some (sites.filter (Site.lift condition)) := by
  simp only [narrow, Option.bind_eq_bind]
  rw [retain_eq_filter (Site.lift condition)]
  · rfl
  · intro site found position
    have own : document.gather ((document.along .self site).filter (Site.lift condition)) =
        document.sites.filter fun other => other == site && Site.lift condition other := by
      apply Document.gather_eq_filter
      intro other _
      rw [List.mem_filter, Document.mem_along]
      simp_all [Axis.reaches]
    refine ⟨_, by rw [eval_step, keeps.along .self (by decide), Option.bind_some, own], ?_⟩
    simp only [Value.accepts, Value.holds]
    rw [Bool.eq_iff_iff, Bool.not_eq_true', List.isEmpty_eq_false_iff_exists_mem]
    constructor
    · intro given
      rcases given with ⟨other, member⟩
      have both := (List.mem_filter.mp member).2
      simp only [Bool.and_eq_true, beq_iff_eq] at both
      exact both.1 ▸ both.2
    · intro holds
      exact ⟨site, List.mem_filter.mpr ⟨inside site found, by simp [holds]⟩⟩

/-- A step to the nearest node of a kind, which then has to be kept by another step. -/
theorem Step.Keeps.leads_nearest {step : Step} {condition : Address → Bool}
    (keeps : step.Keeps document condition) (axis : Axis) (kind : NodeTest) :
    (Expr.step
      { axis := some axis, test := kind, predicates := [.number 1, .step (step.along .self)] }).Leads
        document fun address other =>
          condition other && nearest document axis kind address == some (.node other) where
  outside := by simp [keeps.outside]
  eval := by
    intro address member position size
    have found : Step.reach document
        { axis := some axis, test := kind, predicates := [.number 1, .step (step.along .self)] }
        (.node address) =
          some ((nearest document axis kind address).toList.filter (Site.lift condition)) := by
      simp only [Step.reach, Option.getD_some]
      rw [narrow_first]
      apply keeps.narrow_self
      intro site reached
      exact nearest_mem_sites (Option.mem_toList.mp reached)
    rw [eval_step, found, Option.bind_some, Document.gather_eq_filter]
    intro site inside
    rw [List.mem_filter, Option.mem_toList]
    cases site <;> simp [Site.lift, and_comm]

theorem Step.Keeps.leads_descend {step : Step} {condition : Address → Bool}
    (keeps : step.Keeps document condition) :
    (Expr.descend .context step).Leads document fun address other =>
      condition other && Address.above address other where
  outside := by simp [keeps.outside]
  eval := by
    intro address member position size
    simp only [Expr.eval, Option.bind_eq_bind, Option.bind_some, Value.sites?, Option.pure_def,
      List.flatMap_cons, List.flatMap_nil, List.append_nil]
    rw [reachAll_eq_flatMap (fun start =>
      (document.along .child start).filter (Site.lift condition))]
    · rw [Option.bind_some, Document.gather_eq_filter]
      intro site inside
      simp only [List.mem_flatMap, List.mem_filter, Document.mem_along]
      cases site with
      | ofAttribute owner index => simp [Site.lift]
      | node other =>
          simp only [Site.lift, Bool.and_eq_true]
          constructor
          · intro given
            rcases given with ⟨start, source, ⟨-, child⟩, holds⟩
            obtain ⟨-, middle, rfl, below⟩ := Document.mem_belowOrSelf.mp source
            exact ⟨holds, Address.above_iff_parent.mpr ⟨middle, below, child⟩⟩
          · intro given
            rcases given with ⟨holds, below⟩
            obtain ⟨middle, place, child⟩ := Address.above_iff_parent.mp below
            have middleInside := Document.mem_addresses_of_above (document.mem_of_below inside below)
              (Address.above_of_isParent child)
            exact ⟨.node middle, Document.mem_belowOrSelf.mpr
              ⟨Document.node_mem_sites.mpr middleInside, middle, rfl, place⟩, ⟨inside, child⟩, holds⟩
    · intro start _
      rw [Step.reach_eq keeps.unwritten, keeps.along .child (by decide)]

/-- The nodes with the same parent as the context node, itself included. -/
theorem Step.Keeps.leads_parent {step : Step} {condition : Address → Bool}
    (keeps : step.Keeps document condition) :
    (Expr.walk .parent step).Leads document fun address other =>
      condition other && Address.isParent address.dropLast other where
  outside := by simp [keeps.outside]
  eval := by
    intro address member position size
    simp only [Expr.eval, Option.bind_eq_bind, Option.bind_some, Value.sites?, Option.pure_def]
    rw [reachAll_eq_flatMap (fun start =>
      (document.along .child start).filter (Site.lift condition))]
    · rw [Option.bind_some, Document.gather_eq_filter]
      intro site inside
      have nonempty : address ≠ [] := by
        intro agree
        subst agree
        exact document.nil_not_mem_addresses member
      have parent : Address.isParent address.dropLast address = true := by
        simpa [Address.isParent] using nonempty
      simp only [List.mem_flatMap, List.mem_filter, Document.mem_along]
      cases site with
      | ofAttribute owner index => simp [Site.lift]
      | node other =>
          simp only [Site.lift, Bool.and_eq_true]
          constructor
          · intro given
            rcases given with ⟨start, ⟨-, up⟩, ⟨-, down⟩, holds⟩
            cases start with
            | ofAttribute owner index => simp [Axis.reaches] at up
            | node middle =>
                obtain ⟨last, rfl⟩ := Address.isParent_iff.mp up
                rw [List.dropLast_concat]
                exact ⟨holds, down⟩
          · intro given
            rcases given with ⟨holds, down⟩
            have middleInside := Document.mem_addresses_of_above member
              (Address.above_of_isParent parent)
            exact ⟨.node address.dropLast,
              ⟨Document.node_mem_sites.mpr middleInside, parent⟩, ⟨inside, down⟩, holds⟩
    · intro start _
      rw [Step.reach_eq keeps.unwritten, keeps.along .child (by decide)]

/-! ## From the document -/

theorem Step.Keeps.anywhere {step : Step} {condition : Address → Bool}
    (keeps : step.Keeps document condition) : (Expr.anywhere step).Selects document condition where
  outside := keeps.outside
  eval := by
    intro context
    simp only [Expr.eval, Option.bind_eq_bind, Option.pure_def]
    rw [reachAll_eq_flatMap (fun start =>
      (document.along .child start).filter (Site.lift condition))]
    · rw [Option.bind_some, Document.gather_eq_filter]
      intro site inside
      simp only [List.mem_flatMap, List.mem_filter, Document.mem_along]
      cases site with
      | ofAttribute owner index => simp [Site.lift]
      | node address =>
          constructor
          · intro given
            rcases given with ⟨start, -, -, holds⟩
            exact holds
          · intro holds
            have nonempty : address ≠ [] := by
              intro agree
              subst agree
              simp [Site.lift, keeps.outside] at holds
            have parent : Address.isParent address.dropLast address = true := by
              simpa [Address.isParent] using nonempty
            have member : address ∈ document.addresses :=
              (Document.node_mem_sites.mp inside).resolve_left nonempty
            have parentInside := Document.node_mem_sites.mpr
              (Document.mem_addresses_of_above member (Address.above_of_isParent parent))
            refine ⟨.node address.dropLast, ?_, ⟨inside, parent⟩, holds⟩
            refine Document.mem_belowOrSelf.mpr ⟨parentInside, address.dropLast, rfl, ?_⟩
            cases address.dropLast with
            | nil => exact .inl rfl
            | cons _ _ => exact .inr rfl
    · intro start _
      rw [Step.reach_eq keeps.unwritten, keeps.along .child (by decide)]

/-- A node of a set is an element or text node. -/
theorem Expr.Selects.source {condition : Address → Bool} (outside : condition [] = false) {site : Site}
    (member : site ∈ document.sites.filter (Site.lift condition)) :
    ∃ address ∈ document.addresses, site = .node address ∧ condition address = true := by
  obtain ⟨inside, holds⟩ := List.mem_filter.mp member
  cases site with
  | ofAttribute owner index => simp [Site.lift] at holds
  | node address =>
      rcases Document.node_mem_sites.mp inside with root | inside
      · rw [root] at holds
        simp [Site.lift, outside] at holds
      · exact ⟨address, inside, rfl, holds⟩

/-- A step from each node of a set, by the relation between the two ends of the step. -/
theorem Expr.Selects.walk_of {base : Expr} {step : Step} {targets : Address → Bool}
    {condition : Address → Bool} {relation : Address → Address → Bool}
    (selects : base.Selects document targets) (outside : condition [] = false)
    (found : Site → List Site)
    (reach : ∀ start ∈ document.addresses,
      step.reach document (.node start) = some (found (.node start)))
    (leads : ∀ start ∈ document.addresses, ∀ site ∈ document.sites,
      site ∈ found (.node start) ↔
        Site.lift (fun address => condition address && relation start address) site = true) :
    (Expr.walk base step).Selects document fun address =>
      condition address && document.addresses.any fun start =>
        targets start && relation start address where
  outside := by simp [outside]
  eval := by
    intro context
    simp only [Expr.eval, selects.eval, Option.bind_eq_bind, Option.bind_some, Value.sites?,
      Option.pure_def]
    rw [reachAll_eq_flatMap found]
    · rw [Option.bind_some, Document.gather_eq_filter]
      intro site inside
      rw [List.mem_flatMap]
      constructor
      · intro given
        rcases given with ⟨source, member, reached⟩
        obtain ⟨start, startInside, rfl, target⟩ := Selects.source selects.outside member
        have holds := (leads start startInside site inside).mp reached
        cases site with
        | ofAttribute owner index => simp [Site.lift] at holds
        | node address =>
            simp only [Site.lift, Bool.and_eq_true, List.any_eq_true] at holds ⊢
            exact ⟨holds.1, start, startInside, target, holds.2⟩
      · intro holds
        cases site with
        | ofAttribute owner index => simp [Site.lift] at holds
        | node address =>
            simp only [Site.lift, Bool.and_eq_true, List.any_eq_true] at holds
            rcases holds with ⟨kept, start, startInside, target, related⟩
            refine ⟨.node start, ?_, (leads start startInside _ inside).mpr ?_⟩
            · exact List.mem_filter.mpr ⟨Document.node_mem_sites.mpr (.inr startInside), target⟩
            · simp [Site.lift, kept, related]
    · intro source member
      obtain ⟨start, startInside, rfl, -⟩ := Selects.source selects.outside member
      exact reach start startInside

theorem Expr.Selects.walk_along {base : Expr} {step : Step} {targets condition : Address → Bool}
    (selects : base.Selects document targets) (keeps : step.Keeps document condition) {axis : Axis}
    (notAttributes : axis ≠ .attributes) :
    (Expr.walk base (step.along axis)).Selects document fun address =>
      condition address && document.addresses.any fun start =>
        targets start && axis.reaches (.node start) (.node address) := by
  apply selects.walk_of keeps.outside
    (fun start => (document.along axis start).filter (Site.lift condition))
  · intro start _
    exact keeps.along axis notAttributes _
  · intro start _ site inside
    rw [List.mem_filter, Document.mem_along]
    cases site <;> simp [Site.lift, inside, and_comm]

theorem Expr.Selects.walk_child {base : Expr} {step : Step} {targets condition : Address → Bool}
    (selects : base.Selects document targets) (keeps : step.Keeps document condition) :
    (Expr.walk base step).Selects document fun address =>
      condition address && document.addresses.any fun start =>
        targets start && Address.isParent start address := by
  apply selects.walk_of keeps.outside
    (fun start => (document.along .child start).filter (Site.lift condition))
  · intro start _
    rw [Step.reach_eq keeps.unwritten, keeps.along .child (by decide)]
  · intro start _ site inside
    rw [List.mem_filter, Document.mem_along]
    cases site <;> simp [Site.lift, inside, and_comm, Axis.reaches]

/-- The nearest node along an axis, from nodes of the tree only. -/
def nearestFrom (document : Document) (axis : Axis) (kind : NodeTest) : Site → List Site
  | .node start => (nearest document axis kind start).toList
  | .ofAttribute _ _ => []

/-- A step to the nearest node of a kind from each node of a set, which then has to be kept by another
step. -/
theorem Expr.Selects.walk_nearest {base : Expr} {step : Step} {targets condition : Address → Bool}
    (selects : base.Selects document targets) (keeps : step.Keeps document condition) (axis : Axis)
    (kind : NodeTest) :
    (Expr.walk (.walk base { axis := some axis, test := kind, predicates := [.number 1] })
      (step.along .self)).Selects document fun address =>
        condition address && document.addresses.any fun start =>
          targets start && nearest document axis kind start == some (.node address) where
  outside := by simp [keeps.outside]
  eval := by
    intro context
    have first (start : Address) :
        Step.reach document { axis := some axis, test := kind, predicates := [.number 1] }
          (.node start) = some (nearest document axis kind start).toList := by
      simp only [Step.reach, Option.getD_some]
      rw [narrow_first]
      rfl
    simp only [Expr.eval, selects.eval, Option.bind_eq_bind, Option.bind_some, Value.sites?,
      Option.pure_def]
    rw [reachAll_eq_flatMap (nearestFrom document axis kind)]
    · rw [Option.bind_some, Option.bind_some, Option.bind_some,
        reachAll_eq_flatMap (fun start =>
          (document.along .self start).filter (Site.lift condition)), Option.bind_some,
        Document.gather_eq_filter]
      · intro site inside
        simp only [List.mem_flatMap, Document.mem_gather, List.mem_filter, Document.mem_along,
          Axis.reaches, beq_iff_eq]
        constructor
        · intro given
          rcases given with ⟨_, ⟨-, source, member, reached⟩, ⟨-, rfl⟩, holds⟩
          obtain ⟨start, startInside, rfl, target⟩ :=
            Selects.source selects.outside (List.mem_filter.mpr member)
          have near : nearest document axis kind start = some site := Option.mem_toList.mp reached
          cases site with
          | ofAttribute owner index => simp [Site.lift] at holds
          | node address =>
              simp only [Site.lift, Bool.and_eq_true, List.any_eq_true, beq_iff_eq]
              exact ⟨holds, start, startInside, target, near⟩
        · intro holds
          cases site with
          | ofAttribute owner index => simp [Site.lift] at holds
          | node address =>
              simp only [Site.lift, Bool.and_eq_true, List.any_eq_true, beq_iff_eq] at holds
              rcases holds with ⟨kept, start, startInside, target, near⟩
              refine ⟨.node address, ⟨inside, .node start, ?_, Option.mem_toList.mpr near⟩,
                ⟨inside, rfl⟩, kept⟩
              exact ⟨Document.node_mem_sites.mpr (.inr startInside), target⟩
      · intro start _
        exact keeps.along .self (by decide) start
    · intro source member
      obtain ⟨start, -, rfl, -⟩ := Selects.source selects.outside member
      exact first start

/-- A step from each node of a set and from each node below. -/
theorem Expr.Selects.descend {base : Expr} {step : Step} {targets condition : Address → Bool}
    (selects : base.Selects document targets) (keeps : step.Keeps document condition) :
    (Expr.descend base step).Selects document fun address =>
      condition address && document.addresses.any fun start =>
        targets start && Address.above start address where
  outside := by simp [keeps.outside]
  eval := by
    intro context
    simp only [Expr.eval, selects.eval, Option.bind_eq_bind, Option.bind_some, Value.sites?,
      Option.pure_def]
    rw [reachAll_eq_flatMap (fun start =>
      (document.along .child start).filter (Site.lift condition))]
    · rw [Option.bind_some, Document.gather_eq_filter]
      intro site inside
      simp only [List.mem_flatMap]
      constructor
      · intro given
        rcases given with ⟨middle, ⟨source, member, below⟩, reached⟩
        obtain ⟨start, startInside, rfl, target⟩ := Selects.source selects.outside member
        obtain ⟨-, middle, rfl, place⟩ := Document.mem_belowOrSelf.mp below
        obtain ⟨onAxis, holds⟩ := List.mem_filter.mp reached
        have child := (Document.mem_along.mp onAxis).2
        cases site with
        | ofAttribute owner index => simp [Site.lift] at holds
        | node address =>
            simp only [Site.lift, Bool.and_eq_true, List.any_eq_true]
            exact ⟨holds, start, startInside, target,
              Address.above_iff_parent.mpr ⟨middle, place, child⟩⟩
      · intro holds
        cases site with
        | ofAttribute owner index => simp [Site.lift] at holds
        | node address =>
            simp only [Site.lift, Bool.and_eq_true, List.any_eq_true] at holds
            rcases holds with ⟨kept, start, startInside, target, below⟩
            obtain ⟨middle, place, child⟩ := Address.above_iff_parent.mp below
            have member := document.mem_of_below inside below
            have middleInside := Document.node_mem_sites.mpr
              (Document.mem_addresses_of_above member (Address.above_of_isParent child))
            refine ⟨.node middle, ⟨.node start, ?_, ?_⟩, ?_⟩
            · exact List.mem_filter.mpr ⟨Document.node_mem_sites.mpr (.inr startInside), target⟩
            · exact Document.mem_belowOrSelf.mpr ⟨middleInside, middle, rfl, place⟩
            · exact List.mem_filter.mpr ⟨Document.mem_along.mpr ⟨inside, child⟩, kept⟩
    · intro start _
      rw [Step.reach_eq keeps.unwritten, keeps.along .child (by decide)]

/-! ## Sets with conditions -/

theorem Expr.Selects.group {inner : Expr} {condition : Address → Bool}
    (selects : inner.Selects document condition) : (Expr.group inner).Selects document condition where
  outside := selects.outside
  eval := selects.eval

theorem Expr.Selects.union {left right : Expr} {first second : Address → Bool}
    (leftSelects : left.Selects document first) (rightSelects : right.Selects document second) :
    (Expr.binary .union left right).Selects document fun address => first address || second address where
  outside := by simp [leftSelects.outside, rightSelects.outside]
  eval := by
    intro context
    simp only [Expr.eval, leftSelects.eval, rightSelects.eval, Option.bind_eq_bind, Option.bind_some,
      applyOperator]
    rw [Document.gather_eq_filter]
    intro site inside
    cases site <;> simp [Site.lift, inside]

theorem Expr.Selects.restrict {set : Expr} {condition condition' : Address → Bool}
    (selects : set.Selects document condition) {expressions : List Expr}
    (means : AllMean document expressions condition') :
    (set.restrict expressions).Selects document fun address =>
      condition address && condition' address where
  outside := by simp [selects.outside]
  eval := by
    intro context
    have narrowed := narrow_conjunction means (document.sites.filter (Site.lift condition)) (by
      intro site member
      obtain ⟨address, inside, rfl, -⟩ := Selects.source selects.outside member
      exact ⟨address, rfl, inside⟩)
    have both : (document.sites.filter (Site.lift condition)).filter (Site.lift condition') =
        document.sites.filter
          (Site.lift fun address => condition address && condition' address) := by
      rw [List.filter_filter]
      apply List.filter_congr
      intro site _
      cases site <;> simp [Site.lift, Bool.and_comm]
    rw [both] at narrowed
    cases expressions with
    | nil =>
        simp only [Expr.conjunction, Expr.chain, Option.toList_none, narrow, Option.some.injEq]
          at narrowed
        simp only [Expr.restrict, Expr.conjunction, Expr.chain, Option.toList_none, List.foldl_nil,
          selects.eval, narrowed]
    | cons first others =>
        simp only [Expr.conjunction, Expr.chain, Option.toList_some, narrow, Option.bind_eq_bind]
          at narrowed
        simp only [Expr.restrict, Expr.conjunction, Expr.chain, Option.toList_some, List.foldl_cons,
          List.foldl_nil, Expr.eval, selects.eval, Option.bind_eq_bind, Option.bind_some,
          Value.sites?, Option.pure_def]
        obtain ⟨kept, retained, same⟩ := Option.bind_eq_some_iff.mp narrowed
        cases same
        rw [retained, Option.bind_some]

end Locator.XPath
