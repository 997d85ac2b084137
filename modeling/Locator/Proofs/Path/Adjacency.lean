import Locator.Path.Html
import Locator.Proofs.Document.Neighbours
import Locator.Proofs.Path.Compilation

/-!
# The next element in both forms

A relation to the next element is compiled in two ways. Started from the targets, `immediatelyAfter` goes to
the next element, as it should, while `immediatelyBefore` goes to the previous element of a target. As a
condition it is the other way round. The next and the previous element are not inverse to each other, so one
form of each relation selects what it should only in some documents; here it is said in which.
-/

namespace Locator

open Locator.XPath

set_option autoImplicit false

variable {document : Document}

/-! ## The nearest element along an axis -/

theorem filter_along_element (axis : Axis) (address : Address) (notAttributes : axis ≠ .attributes) :
    (document.sites.filter (axis.reaches (.node address))).filter
        (NodeTest.principal.keeps document axis) =
      (document.addresses.filter fun other =>
        document.isElement other && axis.reaches (.node address) (.node other)).map .node := by
  rw [← document.filter_sites_lift _ (by rfl), List.filter_filter]
  apply List.filter_congr
  intro site _
  rw [NodeTest.keeps_eq_lift (by simp) notAttributes]
  cases site <;> rfl

theorem nearest_following (address : Address) :
    nearest document .following .principal address = (document.nextElement address).map .node := by
  have along : document.along .following (.node address) =
      document.sites.filter (Axis.reaches .following (.node address)) := rfl
  rw [nearest, along, filter_along_element .following address (by decide), List.head?_map,
    List.head?_filter]
  rfl

theorem nearest_preceding (address : Address) :
    nearest document .preceding .principal address = (document.previousElement address).map .node := by
  have along : document.along .preceding (.node address) =
      (document.sites.filter (Axis.reaches .preceding (.node address))).reverse := rfl
  rw [nearest, along, List.filter_reverse, filter_along_element .preceding address (by decide),
    ← List.map_reverse, ← List.filter_reverse, List.head?_map, List.head?_filter]
  rfl

theorem map_node_beq (found : Option Address) (address : Address) :
    (found.map Site.node == some (.node address)) = (found == some address) := by
  rw [Bool.eq_iff_iff, beq_iff_eq, beq_iff_eq]
  cases found <;> simp

/-! ## Paths of elements -/

/-- True of the kinds that are written as a step for elements. -/
def Node.isElementStep : Node → Bool
  | .element _ | .any => true
  | .text _ | .union _ _ | .occurrence _ _ => false

/-- True of constraints none of which can start a location path. -/
def unled : List Constraint → Bool
  | [] => true
  | .relation relation _ :: others => !relation.leads && unled others
  | .property _ :: others => unled others

mutual

/-- True of paths that select elements only. -/
def Path.onlyElements : Path → Bool
  | ⟨node, _, _⟩ => node.onlyElements

def Node.onlyElements : Node → Bool
  | .element _ | .any => true
  | .text _ => false
  | .union left right => left.onlyElements && right.onlyElements
  | .occurrence path _ => path.onlyElements

end

theorem isElement_of_hasName {address : Address} {name : String}
    (named : (document.at? address).any (Tree.hasName name) = true) :
    document.isElement address = true := by
  unfold Document.isElement
  cases tree : document.at? address with
  | none => simp [tree] at named
  | some tree' =>
      rw [tree] at named
      cases tree' with
      | text content => simp [Tree.hasName] at named
      | element own attributes children => rfl

mutual

theorem Path.isElement_of_found (path : Path) (elements : path.onlyElements = true) {address : Address}
    (found : path.found document address = true) : document.isElement address = true := by
  match path with
  | ⟨node, constraints, override⟩ =>
      simp only [Path.found, Bool.and_eq_true] at found
      exact Node.isElement_of_matched node elements found.1

theorem Node.isElement_of_matched (node : Node) (elements : node.onlyElements = true) {address : Address}
    (matched : node.matched document address = true) : document.isElement address = true := by
  match node with
  | .element name => exact isElement_of_hasName matched
  | .any => exact matched
  | .text content => exact absurd elements (by simp [Node.onlyElements])
  | .union left right =>
      simp only [Node.onlyElements, Bool.and_eq_true] at elements
      simp only [Node.matched, Bool.or_eq_true] at matched
      rcases matched with found | found
      · exact Path.isElement_of_found left elements.1 found
      · exact Path.isElement_of_found right elements.2 found
  | .occurrence path position =>
      simp only [Node.matched, beq_iff_eq] at matched
      have member := List.mem_filter.mp (Position.mem_of_pick matched)
      exact Path.isElement_of_found path elements member.2

end

theorem Path.isElement_of_kept (path : Path) (elements : path.onlyElements = true) {address : Address}
    (kept : path.kept document address = true) : document.isElement address = true := by
  match path with
  | ⟨node, constraints, override⟩ =>
      simp only [Path.kept, Bool.and_eq_true] at kept
      exact Node.isElement_of_matched node elements kept.1

theorem Path.kind_of_onlyElements {path : Path} (elements : path.onlyElements = true) :
    path.kind = .principal := by
  rcases path with ⟨node, constraints, override⟩
  cases node with
  | text content => exact absurd elements (by simp [Path.onlyElements, Node.onlyElements])
  | element name => rfl
  | any => rfl
  | union left right => rfl
  | occurrence path position => rfl

/-! ## One more constraint -/

theorem ledTo_append {constraints : List Constraint} (free : unled constraints = true)
    (kind : NodeTest) (others : List Constraint) (address : Address) :
    ledTo document kind (constraints ++ others) address = ledTo document kind others address := by
  induction constraints with
  | nil => rfl
  | cons first rest ih =>
      cases first with
      | property property => exact ih free
      | relation relation target =>
          simp only [unled, Bool.and_eq_true, Bool.not_eq_true'] at free
          simp only [List.cons_append, ledTo, free.1, Bool.false_eq_true, if_false]
          exact ih free.2

theorem remainingMet_append {constraints : List Constraint} (free : unled constraints = true)
    (others : List Constraint) (address : Address) :
    remainingMet document (constraints ++ others) address =
      (remainingMet document constraints address && remainingMet document others address) := by
  induction constraints with
  | nil => rfl
  | cons first rest ih =>
      cases first with
      | property property =>
          simp only [List.cons_append, remainingMet, ih free, Bool.and_assoc]
      | relation relation target =>
          simp only [unled, Bool.and_eq_true, Bool.not_eq_true'] at free
          simp only [List.cons_append, remainingMet, free.1, Bool.false_eq_true, if_false, ih free.2,
            Bool.and_assoc]

theorem allUse_append {permitted : Relation → Bool} (constraints others : List Constraint) :
    allUse permitted (constraints ++ others) = (allUse permitted constraints && allUse permitted others) := by
  induction constraints with
  | nil => rfl
  | cons first rest ih => cases first <;> simp only [List.cons_append, allUse, ih, Bool.and_assoc]

/-- A step path with a leading relation, which is followed from the targets. -/
theorem Path.found_relate {path : Path} (step : path.node.isElementStep = true)
    (free : unled path.constraints = true) {relation : Relation} (leads : relation.leads = true)
    (target : Path) (address : Address) :
    (path.relate relation target).found document address =
      (path.found document address && document.addresses.any fun other =>
        target.found document other && relation.leadsTo document .principal address other) := by
  rcases path with ⟨node, constraints, override⟩
  have noSet : node.isSet = false := by
    cases node <;> simp_all [Node.isElementStep, Node.isSet]
  have kind : Path.kind ⟨node, constraints ++ [.relation relation target], override⟩ = .principal := by
    cases node <;> first | rfl | exact absurd step (by simp [Node.isElementStep])
  have alone : ledTo document _ (constraints ++ []) address = _ :=
    ledTo_append free (Path.kind ⟨node, constraints, override⟩) [] address
  rw [List.append_nil] at alone
  simp only [Path.relate, Path.constrain, Path.found, noSet, Bool.false_eq_true, if_false, kind,
    ledTo_append free, remainingMet_append free, alone]
  simp only [ledTo, remainingMet, met, leads, if_true, Bool.and_true, Bool.true_and]
  rw [Bool.and_assoc, Bool.and_comm (remainingMet document constraints address)]

/-- A step path with a property that is a relation, which is looked at from the candidate. -/
theorem Path.found_and_related {path : Path} (step : path.node.isElementStep = true)
    (free : unled path.constraints = true) (relation : Relation) (target : Path) (address : Address) :
    (path.and (.related relation target)).found document address =
      (path.found document address && document.addresses.any fun other =>
        target.kept document other && relation.meets document target.kind address other) := by
  rcases path with ⟨node, constraints, override⟩
  have noSet : node.isSet = false := by
    cases node <;> simp_all [Node.isElementStep, Node.isSet]
  have alone (kind : NodeTest) :
      ledTo document kind constraints address = true := by
    have more : ledTo document kind (constraints ++ []) address = _ := ledTo_append free kind [] address
    rwa [List.append_nil] at more
  simp only [Path.and, Path.that, Path.found, noSet, Bool.false_eq_true, if_false, List.map_singleton,
    ledTo_append free, remainingMet_append free, alone]
  simp only [ledTo, remainingMet, Property.met, Bool.and_true, Bool.true_and]
  rw [Bool.and_assoc]

theorem Path.relate_uses {permitted : Relation → Bool} {path target : Path} {relation : Relation}
    (free : path.uses permitted = true) (targetFree : target.uses permitted = true)
    (allowed : permitted relation = true) : (path.relate relation target).uses permitted = true := by
  rcases path with ⟨node, constraints, override⟩
  simp only [Path.uses, Bool.and_eq_true] at free
  simp [Path.relate, Path.constrain, Path.uses, allUse_append, allUse, free, targetFree, allowed]

theorem Path.and_related_uses {permitted : Relation → Bool} {path target : Path} {relation : Relation}
    (free : path.uses permitted = true) (targetFree : target.uses permitted = true)
    (allowed : permitted relation = true) :
    (path.and (.related relation target)).uses permitted = true := by
  rcases path with ⟨node, constraints, override⟩
  simp only [Path.uses, Bool.and_eq_true] at free
  simp [Path.and, Path.that, Path.uses, allUse_append, allUse, Property.uses, free, targetFree, allowed]

/-! ## What the relations should mean -/

theorem holds_immediatelyBefore {candidate target : Address}
    (element : document.isElement target = true) :
    Relation.immediatelyBefore.holds document candidate target =
      (document.nextElement candidate == some target) := by
  simp only [Relation.holds, Document.nextLike, Document.nextElement, element, beq_true,
    Bool.and_comm (Address.endsBefore _ _)]

theorem holds_immediatelyAfter {candidate target : Address}
    (element : document.isElement candidate = true) :
    Relation.immediatelyAfter.holds document candidate target =
      (document.nextElement target == some candidate) := by
  simp only [Relation.holds, Document.nextLike, Document.nextElement, element, beq_true,
    Bool.and_comm (Address.endsBefore _ _)]

/-- The candidates that stand in the relation to some target. -/
def Document.related (document : Document) (relation : Relation) (candidates targets : Address → Bool)
    (address : Address) : Bool :=
  candidates address && document.addresses.any fun other =>
    targets other && relation.holds document address other

/-- Seen from the targets, looking back, the candidates before a target are those whose next element is a
target: such a candidate has no elements below it to be seen first, and one that is seen from within an
element that starts after it has a target for its next element all the same. -/
def Document.SeenFromTargets (document : Document) (candidates targets : Address → Bool) : Prop :=
  ∀ candidate, candidates candidate = true →
    (∀ target, targets target = true → document.nextElement candidate = some target →
      document.hasElementBelow candidate = false) ∧
    ∀ target, targets target = true → document.previousElement target = some candidate →
      document.entersAfter candidate target = true →
      ∃ outer, targets outer = true ∧ document.nextElement candidate = some outer

/-- Seen from the candidates, looking back, the targets before a candidate are those whose next element is
the candidate. -/
def Document.SeenFromCandidates (document : Document) (candidates targets : Address → Bool) : Prop :=
  ∀ candidate, candidates candidate = true →
    (∀ target, targets target = true → document.previousElement candidate = some target →
      document.entersAfter target candidate = false) ∧
    ∀ target, targets target = true → document.nextElement target = some candidate →
      document.hasElementBelow target = true →
      ∃ inner, targets inner = true ∧ document.previousElement candidate = some inner

/-- The path selects the nodes that satisfy a condition, in document order. -/
def Path.Selects (path : Path) (document : Document) (condition : Address → Bool) : Prop :=
  path.query.select document = some ((document.addresses.filter condition).map .node)

theorem select_eq_iff {expression : Expr} {condition condition' : Address → Bool}
    (selects : expression.Selects document condition) :
    expression.select document = some ((document.addresses.filter condition').map .node) ↔
      ∀ address ∈ document.addresses, condition address = condition' address := by
  rw [selects.select, Option.some.injEq]
  constructor
  · intro same address member
    have lists : document.addresses.filter condition = document.addresses.filter condition' :=
      (List.map_inj_right fun _ _ equal => Site.node.inj equal).mp same
    have both : address ∈ document.addresses.filter condition ↔
        address ∈ document.addresses.filter condition' := by rw [lists]
    rw [List.mem_filter, List.mem_filter] at both
    simp only [member, true_and] at both
    exact Bool.eq_iff_iff.mpr both
  · intro same
    rw [List.filter_congr same]

/-! ## What the two forms select -/

theorem any_among_iff {targets stands : Address → Bool}
    (elements : ∀ other, targets other = true → document.isElement other = true) :
    (document.addresses.any fun other => targets other && stands other) = true ↔
      ∃ other, targets other = true ∧ stands other = true := by
  simp only [List.any_eq_true, Bool.and_eq_true]
  constructor
  · intro given
    rcases given with ⟨other, -, both⟩
    exact ⟨other, both⟩
  · intro given
    rcases given with ⟨other, both⟩
    exact ⟨other, Document.mem_addresses_of_isElement (elements other both.1), both⟩

section Related

variable {candidates targets : Address → Bool}

theorem Document.related_before
    (elements : ∀ other, targets other = true → document.isElement other = true) (address : Address) :
    document.related .immediatelyBefore candidates targets address =
      (candidates address && document.addresses.any fun other =>
        targets other && document.nextElement address == some other) := by
  unfold Document.related
  congr 2
  funext other
  cases isTarget : targets other with
  | false => rfl
  | true => rw [holds_immediatelyBefore (elements other isTarget)]

theorem Document.related_after
    (elements : ∀ other, candidates other = true → document.isElement other = true) (address : Address) :
    document.related .immediatelyAfter candidates targets address =
      (candidates address && document.addresses.any fun other =>
        targets other && document.nextElement other == some address) := by
  unfold Document.related
  cases isCandidate : candidates address with
  | false => rfl
  | true => simp only [holds_immediatelyAfter (elements address isCandidate)]

theorem any_among_agree_iff {stands stands' : Address → Address → Bool}
    (candidateElements : ∀ other, candidates other = true → document.isElement other = true)
    (targetElements : ∀ other, targets other = true → document.isElement other = true) :
    (∀ address ∈ document.addresses,
        (candidates address && document.addresses.any fun other => targets other && stands address other) =
          (candidates address &&
            document.addresses.any fun other => targets other && stands' address other)) ↔
      ∀ candidate, candidates candidate = true →
        ((∃ other, targets other = true ∧ stands candidate other = true) ↔
          ∃ other, targets other = true ∧ stands' candidate other = true) := by
  constructor
  · intro same candidate isCandidate
    have agree := same candidate (Document.mem_addresses_of_isElement (candidateElements _ isCandidate))
    rw [isCandidate, Bool.true_and, Bool.true_and] at agree
    rw [← any_among_iff targetElements, ← any_among_iff targetElements, agree]
  · intro same address _
    cases isCandidate : candidates address with
    | false => rfl
    | true =>
        have agree := same address isCandidate
        rw [← any_among_iff targetElements, ← any_among_iff targetElements, ← Bool.eq_iff_iff] at agree
        rw [agree]

theorem Document.seenFromTargets_iff
    (candidateElements : ∀ other, candidates other = true → document.isElement other = true)
    (targetElements : ∀ other, targets other = true → document.isElement other = true) :
    (∀ address ∈ document.addresses,
        (candidates address && document.addresses.any fun other =>
            targets other && document.previousElement other == some address) =
          document.related .immediatelyBefore candidates targets address) ↔
      document.SeenFromTargets candidates targets := by
  simp only [related_before targetElements]
  rw [any_among_agree_iff candidateElements targetElements]
  apply forall_congr'
  intro candidate
  apply imp_congr_right
  intro isCandidate
  simp only [beq_iff_eq]
  exact previous_iff_next (candidateElements candidate isCandidate) targetElements

theorem Document.seenFromCandidates_iff
    (candidateElements : ∀ other, candidates other = true → document.isElement other = true)
    (targetElements : ∀ other, targets other = true → document.isElement other = true) :
    (∀ address ∈ document.addresses,
        (candidates address && document.addresses.any fun other =>
            targets other && document.previousElement address == some other) =
          document.related .immediatelyAfter candidates targets address) ↔
      document.SeenFromCandidates candidates targets := by
  simp only [related_after candidateElements]
  rw [any_among_agree_iff candidateElements targetElements]
  apply forall_congr'
  intro candidate
  apply imp_congr_right
  intro isCandidate
  simp only [beq_iff_eq]
  exact next_iff_previous (candidateElements candidate isCandidate) targetElements

end Related

section Forms

variable {path target : Path} (step : path.node.isElementStep = true)
  (free : unled path.constraints = true)

include step free

theorem Path.immediatelyAfter_found (address : Address) :
    (path.immediatelyAfter target).found document address =
      (path.found document address && document.addresses.any fun other =>
        target.found document other && document.nextElement other == some address) := by
  rw [Path.immediatelyAfter, Path.found_relate step free (by rfl)]
  simp only [Relation.leadsTo, nearest_following, map_node_beq]

theorem Path.immediatelyBefore_found (address : Address) :
    (path.immediatelyBefore target).found document address =
      (path.found document address && document.addresses.any fun other =>
        target.found document other && document.previousElement other == some address) := by
  rw [Path.immediatelyBefore, Path.found_relate step free (by rfl)]
  simp only [Relation.leadsTo, nearest_preceding, map_node_beq]

theorem Path.and_immediatelyBefore_found (elements : target.onlyElements = true) (address : Address) :
    (path.and (.related .immediatelyBefore target)).found document address =
      (path.found document address && document.addresses.any fun other =>
        target.kept document other && document.nextElement address == some other) := by
  rw [Path.found_and_related step free, Path.kind_of_onlyElements elements]
  simp only [Relation.meets, nearest_following, map_node_beq]

theorem Path.and_immediatelyAfter_found (elements : target.onlyElements = true) (address : Address) :
    (path.and (.related .immediatelyAfter target)).found document address =
      (path.found document address && document.addresses.any fun other =>
        target.kept document other && document.previousElement address == some other) := by
  rw [Path.found_and_related step free, Path.kind_of_onlyElements elements]
  simp only [Relation.meets, nearest_preceding, map_node_beq]

end Forms

theorem Path.onlyElements_of_isElementStep {path : Path} (step : path.node.isElementStep = true) :
    path.onlyElements = true := by
  rcases path with ⟨node, constraints, override⟩
  cases node <;> first | rfl | exact absurd step (by simp [Node.isElementStep])

theorem Path.selects_iff {path : Path} {condition : Address → Bool} (free : path.fragmentFree = true) :
    path.Selects document condition ↔
      ∀ address ∈ document.addresses, path.found document address = condition address :=
  select_eq_iff (Path.query_selects path free)

theorem Path.selects_found {path : Path} (free : path.fragmentFree = true) (document : Document) :
    path.Selects document (path.found document) :=
  (Path.query_selects path free).select

/-- For a step path without a leading relation and a target of elements: the two relations to the next element
as they are compiled, and the exact documents in which the form that looks back selects the nodes it should.
`Path.found` are the nodes that a target selects alone, `Path.kept` the nodes that its step keeps within a
condition; these can differ only when the target uses adjacency itself. -/
theorem adjacency_selects {path target : Path} (free : path.fragmentFree = true)
    (targetFree : target.fragmentFree = true) (step : path.node.isElementStep = true)
    (unledPath : unled path.constraints = true) (elements : target.onlyElements = true)
    (document : Document) :
    (path.Selects document (path.found document) ∧ target.Selects document (target.found document)) ∧
    (path.immediatelyAfter target).Selects document
      (document.related .immediatelyAfter (path.found document) (target.found document)) ∧
    (path.and (.related .immediatelyBefore target)).Selects document
      (document.related .immediatelyBefore (path.found document) (target.kept document)) ∧
    ((path.immediatelyBefore target).Selects document
        (document.related .immediatelyBefore (path.found document) (target.found document)) ↔
      document.SeenFromTargets (path.found document) (target.found document)) ∧
    ((path.and (.related .immediatelyAfter target)).Selects document
        (document.related .immediatelyAfter (path.found document) (target.kept document)) ↔
      document.SeenFromCandidates (path.found document) (target.kept document)) ∧
    (target.kept document = target.found document →
      ((path.immediatelyBefore target).query.select document =
          (path.and (.related .immediatelyBefore target)).query.select document ↔
        document.SeenFromTargets (path.found document) (target.found document)) ∧
      ((path.immediatelyAfter target).query.select document =
          (path.and (.related .immediatelyAfter target)).query.select document ↔
        document.SeenFromCandidates (path.found document) (target.found document))) := by
  have own : ∀ other, path.found document other = true → document.isElement other = true := by
    intro other found
    exact Path.isElement_of_found path (Path.onlyElements_of_isElementStep step) found
  have found : ∀ other, target.found document other = true → document.isElement other = true :=
    fun other => Path.isElement_of_found target elements
  have kept : ∀ other, target.kept document other = true → document.isElement other = true :=
    fun other => Path.isElement_of_kept target elements
  have after : (path.immediatelyAfter target).Selects document
      (document.related .immediatelyAfter (path.found document) (target.found document)) := by
    rw [Path.selects_iff (show (path.immediatelyAfter target).fragmentFree = true from
      Path.relate_uses free targetFree rfl)]
    intro address _
    rw [Path.immediatelyAfter_found step unledPath, document.related_after own]
  have before : (path.and (.related .immediatelyBefore target)).Selects document
      (document.related .immediatelyBefore (path.found document) (target.kept document)) := by
    rw [Path.selects_iff (Path.and_related_uses free targetFree rfl)]
    intro address _
    rw [Path.and_immediatelyBefore_found step unledPath elements, document.related_before kept]
  have led : (path.immediatelyBefore target).Selects document
        (document.related .immediatelyBefore (path.found document) (target.found document)) ↔
      document.SeenFromTargets (path.found document) (target.found document) := by
    rw [Path.selects_iff (show (path.immediatelyBefore target).fragmentFree = true from
      Path.relate_uses free targetFree rfl), ← document.seenFromTargets_iff own found]
    simp only [Path.immediatelyBefore_found step unledPath]
  have met : (path.and (.related .immediatelyAfter target)).Selects document
        (document.related .immediatelyAfter (path.found document) (target.kept document)) ↔
      document.SeenFromCandidates (path.found document) (target.kept document) := by
    rw [Path.selects_iff (Path.and_related_uses free targetFree rfl),
      ← document.seenFromCandidates_iff own kept]
    simp only [Path.and_immediatelyAfter_found step unledPath elements]
  refine ⟨⟨path.selects_found free document, target.selects_found targetFree document⟩, after, before, led,
    met, ?_⟩
  intro same
  rw [same] at before met
  constructor
  · rw [before, ← led]
    rfl
  · rw [after, eq_comm, ← met]
    rfl

/-- A division with a paragraph in it, and a list with an item in it after the division. -/
def divisionAndList : Document :=
  ⟨[.element "main" []
    [.element "div" [] [.element "p" [] []], .element "ul" [] [.element "li" [] []]]]⟩

/-- The list comes right after the division, but the paragraph within the division is nearer to the list. -/
theorem adjacency_selects_list :
    (Html.div.fragmentFree = true ∧ Html.unorderedList.fragmentFree = true ∧
      Html.div.node.isElementStep = true ∧ unled Html.div.constraints = true ∧
      Html.unorderedList.onlyElements = true) ∧
    (Html.div.and (.related .immediatelyBefore Html.unorderedList)).query.select divisionAndList =
      some [.node [0, 0]] ∧
    ¬ divisionAndList.SeenFromTargets (Html.div.found divisionAndList)
      (Html.unorderedList.found divisionAndList) := by
  obtain ⟨-, -, before, led, -, -⟩ := @adjacency_selects Html.div
    Html.unorderedList (by decide) (by decide) (by decide) (by decide) (by decide)
    divisionAndList
  refine ⟨by decide, before.trans (by decide), ?_⟩
  intro seen
  have wrong : ¬ (Html.div.immediatelyBefore Html.unorderedList).query.select divisionAndList =
      some [.node [0, 0]] := by decide
  exact wrong ((led.mpr seen).trans (by decide))

/-- Of the forms that look back, the one misses the division before the list, and the other takes the item
for the element after the paragraph. -/
theorem looking_back_differs :
    (Html.div.immediatelyBefore Html.unorderedList).query.select divisionAndList ≠
      some ((divisionAndList.addresses.filter (divisionAndList.related .immediatelyBefore
        (Html.div.describes divisionAndList) (Html.unorderedList.describes divisionAndList))).map .node) ∧
    (Html.listItem.and (.related .immediatelyAfter Html.paragraph)).query.select divisionAndList ≠
      some ((divisionAndList.addresses.filter (divisionAndList.related .immediatelyAfter
        (Html.listItem.describes divisionAndList) (Html.paragraph.describes divisionAndList))).map
          .node) := by
  decide

end Locator
