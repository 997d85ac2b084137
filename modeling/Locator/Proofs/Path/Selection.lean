import Locator.Proofs.Path.Kinds
import Locator.Proofs.Path.Tests

/-!
# What paths compile to

The nodes that the compiled expressions select, by the shape of the compilation: a relation that starts a
location path is followed from the targets, every other relation is looked at from the candidate, and from
there the nearest node is the nearest on another axis. `Locator.Proofs.Path.Compilation` compares this with
what the paths mean.
-/

namespace Locator

open Locator.XPath

set_option autoImplicit false

/-- The relation as it is followed from the target. `kind` is the kind of the candidate. -/
def Relation.leadsTo (document : Document) (kind : NodeTest) :
    Relation → (candidate target : Address) → Bool
  | .immediatelyBefore, candidate, target =>
      nearest document .preceding kind target == some (.node candidate)
  | .immediatelyBeforeSibling, candidate, target =>
      nearest document .precedingSibling kind target == some (.node candidate)
  | .immediatelyAfter, candidate, target =>
      nearest document .following kind target == some (.node candidate)
  | .immediatelyAfterSibling, candidate, target =>
      nearest document .followingSibling kind target == some (.node candidate)
  | relation, candidate, target => relation.holds document candidate target

/-- The relation as it is looked at from the candidate. `kind` is the kind of the target. -/
def Relation.meets (document : Document) (kind : NodeTest) :
    Relation → (candidate target : Address) → Bool
  | .immediatelyBefore, candidate, target =>
      nearest document .following kind candidate == some (.node target)
  | .immediatelyBeforeSibling, candidate, target =>
      nearest document .followingSibling kind candidate == some (.node target)
  | .immediatelyAfter, candidate, target =>
      nearest document .preceding kind candidate == some (.node target)
  | .immediatelyAfterSibling, candidate, target =>
      nearest document .precedingSibling kind candidate == some (.node target)
  | relation, candidate, target => relation.holds document candidate target

mutual

/-- Whether the node at an address is among those of `Path.query`. -/
def Path.found (document : Document) : Path → Address → Bool
  | ⟨node, constraints, override⟩, address =>
      node.matched document address &&
        if node.isSet then met document constraints address
        else
          ledTo document (Path.kind ⟨node, constraints, override⟩) constraints address &&
            remainingMet document constraints address

/-- Whether the node at an address is kept by `Path.step`. -/
def Path.kept (document : Document) : Path → Address → Bool
  | ⟨node, constraints, _⟩, address => node.matched document address && met document constraints address

/-- Whether the node at an address is of the kind. -/
def Node.matched (document : Document) : Node → Address → Bool
  | .element name, address => (document.at? address).any (Tree.hasName name)
  | .any, address => document.isElement address
  | .text content, address =>
      document.isText address && normalizeSpace (document.words address) == content.toList
  | .union left right, address => left.found document address || right.found document address
  | .occurrence path position, address =>
      position.pick (document.addresses.filter (path.found document)) == some address

/-- Whether the first leading relation leads to the node at an address. -/
def ledTo (document : Document) (kind : NodeTest) : List Constraint → Address → Bool
  | [], _ => true
  | .relation relation target :: others, address =>
      if relation.leads then
        document.addresses.any fun other =>
          target.found document other && relation.leadsTo document kind address other
      else ledTo document kind others address
  | .property _ :: others, address => ledTo document kind others address

/-- Whether the node at an address meets all constraints but the first leading relation. -/
def remainingMet (document : Document) : List Constraint → Address → Bool
  | [], _ => true
  | .relation relation target :: others, address =>
      if relation.leads then met document others address
      else
        (document.addresses.any fun other =>
          target.kept document other && relation.meets document target.kind address other) &&
          remainingMet document others address
  | .property property :: others, address =>
      property.met document address && remainingMet document others address

/-- Whether the node at an address meets all constraints. -/
def met (document : Document) : List Constraint → Address → Bool
  | [], _ => true
  | .relation relation target :: others, address =>
      (document.addresses.any fun other =>
        target.kept document other && relation.meets document target.kind address other) &&
        met document others address
  | .property property :: others, address =>
      property.met document address && met document others address

/-- Whether the node at an address meets a property. -/
def Property.met (document : Document) : Property → Address → Bool
  | .test test, address => test.holds document address
  | .related relation target, address =>
      document.addresses.any fun other =>
        target.kept document other && relation.meets document target.kind address other
  | .siblingOf target, address =>
      document.addresses.any fun other =>
        target.kept document other &&
          (Address.siblingBefore other address || Address.siblingBefore address other)
  | .occurrences comparison count target, address =>
      comparison.holds
        (document.addresses.filter fun other =>
          target.kept document other && Address.above address other).length
        count
  | .custom _ _, _ => false
  | .and left right, address => left.met document address && right.met document address
  | .or left right, address => left.met document address || right.met document address
  | .not inner, address => !inner.met document address

end

variable {document : Document}

/-! ## Kinds of nodes -/

/-- The step for a kind of node, with further conditions. -/
theorem Node.test_keeps {node : Node} (noSet : node.isSet = false) {expressions : List Expr}
    {condition : Address → Bool} (means : AllMean document expressions condition) :
    Step.Keeps document
      { axis := none
        test := node.test.1
        predicates := Expr.conjunction (node.test.2 ++ expressions) }
      fun address => node.matched document address && condition address := by
  cases node with
  | element name =>
      by_cases plain : isPlainName name = true
      · simp only [Node.test, plain, if_true, List.nil_append]
        exact keeps_of_conditions (by simp) means
      · have named : (Expr.equals (.call .localName []) (.literal name)).Means document fun address =>
            (document.localName (.node address)).toList == name.toList := by
          apply Expr.means_of_truth
          intro address member position size
          rfl
        have keeps := keeps_of_conditions (by decide : NodeTest.principal ≠ .node)
          (named.allMean_cons means)
        simp only [Node.test, plain, Bool.false_eq_true, if_false, List.singleton_append]
        have same (address : Address) :
            (NodeTest.admits document .principal address &&
              ((document.localName (.node address)).toList == name.toList && condition address)) =
              (Node.matched document (.element name) address && condition address) := by
          simp only [NodeTest.admits, Node.matched, Document.isElement, Document.localName]
          rw [← Bool.and_assoc]
          congr 1
          rcases document.at? address with _ | (_ | ⟨own, _, _⟩)
          · simp
          · simp [Tree.isElement, Tree.hasName]
          · rw [Bool.eq_iff_iff]
            simp [Tree.isElement, Tree.hasName, String.toList_inj]
        simpa only [same] using keeps
  | any => exact keeps_of_conditions (by simp [Node.test]) means
  | text content =>
      have named : (Expr.equals (.call .normalizeSpace [.context]) (.literal content)).Means document
          fun address => normalizeSpace (document.words address) == content.toList := by
        apply Expr.means_of_truth
        intro address member position size
        rfl
      have keeps := keeps_of_conditions (by decide : NodeTest.text ≠ .node)
        (named.allMean_cons means)
      simp only [← Bool.and_assoc] at keeps
      exact keeps
  | union left right => exact absurd noSet (by simp [Node.isSet])
  | occurrence path position => exact absurd noSet (by simp [Node.isSet])

theorem filter_eq_toList {Item : Type} [BEq Item] [LawfulBEq Item] {items : List Item}
    (once : items.Nodup) (picked : Option Item) (inside : ∀ item, picked = some item → item ∈ items) :
    items.filter (fun item => picked == some item) = picked.toList := by
  cases picked with
  | none => simp
  | some item =>
      have member := inside item rfl
      induction items with
      | nil => exact absurd member (by simp)
      | cons first others ih =>
          obtain ⟨fresh, once⟩ := List.nodup_cons.mp once
          rcases List.mem_cons.mp member with same | later
          · subst same
            have rest : others.filter (fun other => some item == some other) = [] := by
              rw [List.filter_eq_nil_iff]
              intro other there
              simp only [beq_iff_eq, Option.some.injEq]
              intro equal
              subst equal
              exact fresh there
            rw [List.filter_cons_of_pos (by simp), rest]
            rfl
          · have notFirst : item ≠ first := by
              intro equal
              subst equal
              exact fresh later
            rw [List.filter_cons_of_neg (by simpa using notFirst)]
            exact ih once (by simpa using later) later

theorem Position.mem_of_pick {position : Position} {found : List Address} {address : Address}
    (picked : position.pick found = some address) : address ∈ found := by
  match position with
  | .nth 0 => simp [Position.pick] at picked
  | .nth (index + 1) => exact List.mem_of_getElem? picked
  | .last => exact List.mem_of_getLast? picked

/-- A predicate that asks for a position keeps the node at that position. -/
theorem retain_position (position : Position) (found : List Address) :
    retain (position.predicate.eval document) (found.map Site.node).length 1 (found.map Site.node) =
      some ((position.pick found).toList.map Site.node) := by
  match position with
  | .nth 0 => rw [retain_number 0 _ _ (fun site place => rfl)]; rfl
  | .nth (index + 1) =>
      rw [retain_number (index + 1) _ _ (fun site place => rfl)]
      simp only [Position.pick, Nat.le_add_left, if_true, Nat.add_sub_cancel, List.getElem?_map]
      cases found[index]? <;> rfl
  | .last =>
      have size : 1 + (found.map Site.node).length - 1 = (found.map Site.node).length := by omega
      have last : retain ((Position.predicate .last).eval document)
          (1 + (found.map Site.node).length - 1) 1 (found.map Site.node) =
            some (found.map Site.node).getLast?.toList := by
        apply retain_last
        intro site place
        rfl
      rw [size] at last
      rw [last, List.getLast?_map, Position.pick]
      cases found.getLast? <;> rfl

theorem XPath.Expr.Selects.occurrence {set : Expr} {condition : Address → Bool}
    (selects : set.Selects document condition) (position : Position) :
    (Expr.filter (.group set) position.predicate).Selects document fun address =>
      position.pick (document.addresses.filter condition) == some address where
  outside := by
    rw [beq_eq_false_iff_ne]
    intro picked
    have member := (List.mem_filter.mp (Position.mem_of_pick picked)).1
    exact document.nil_not_mem_addresses member
  eval := by
    intro context
    simp only [Expr.eval, selects.eval, Option.bind_eq_bind, Option.bind_some, Value.sites?,
      Option.pure_def]
    rw [document.filter_sites_lift condition selects.outside, retain_position, Option.bind_some,
      document.filter_sites_lift]
    · rw [filter_eq_toList document.addresses_nodup]
      intro address picked
      exact (List.mem_filter.mp (Position.mem_of_pick picked)).1
    · rw [beq_eq_false_iff_ne]
      intro picked
      have member := (List.mem_filter.mp (Position.mem_of_pick picked)).1
      exact document.nil_not_mem_addresses member

/-! ## Relations -/

theorem Relation.start_selects {relation : Relation} (leads : relation.leads = true) {targets : Expr}
    {among condition : Address → Bool} (selects : targets.Selects document among) {tail : Step}
    (keeps : tail.Keeps document condition) (kind : NodeTest) :
    (relation.start targets kind tail).Selects document fun address =>
      condition address && document.addresses.any fun other =>
        among other && relation.leadsTo document kind address other := by
  cases relation with
  | inside => exact selects.descend keeps
  | containing => exact absurd leads (by simp [Relation.leads])
  | parentOf => exact absurd leads (by simp [Relation.leads])
  | childOf => exact selects.walk_child keeps
  | after => exact selects.walk_along keeps (by decide : Axis.following ≠ .attributes)
  | afterSibling => exact selects.walk_along keeps (by decide : Axis.followingSibling ≠ .attributes)
  | before => exact selects.walk_along keeps (by decide : Axis.preceding ≠ .attributes)
  | beforeSibling => exact selects.walk_along keeps (by decide : Axis.precedingSibling ≠ .attributes)
  | immediatelyBefore => exact selects.walk_nearest keeps .preceding kind
  | immediatelyBeforeSibling => exact selects.walk_nearest keeps .precedingSibling kind
  | immediatelyAfter => exact selects.walk_nearest keeps .following kind
  | immediatelyAfterSibling => exact selects.walk_nearest keeps .followingSibling kind

theorem Relation.condition_means (relation : Relation) {target : Step} {condition : Address → Bool}
    (keeps : target.Keeps document condition) (kind : NodeTest) :
    (relation.condition kind target).Means document fun address =>
      document.addresses.any fun other =>
        condition other && relation.meets document kind address other := by
  cases relation with
  | inside => exact (keeps.leads (by decide : Axis.ancestor ≠ .attributes)).means
  | containing => exact keeps.leads_descend.means
  | parentOf => exact (keeps.leads (by decide : Axis.child ≠ .attributes)).means
  | childOf => exact (keeps.leads (by decide : Axis.parent ≠ .attributes)).means
  | after => exact (keeps.leads (by decide : Axis.preceding ≠ .attributes)).means
  | afterSibling => exact (keeps.leads (by decide : Axis.precedingSibling ≠ .attributes)).means
  | before => exact (keeps.leads (by decide : Axis.following ≠ .attributes)).means
  | beforeSibling => exact (keeps.leads (by decide : Axis.followingSibling ≠ .attributes)).means
  | immediatelyBefore => exact (keeps.leads_nearest .following kind).means
  | immediatelyBeforeSibling => exact (keeps.leads_nearest .followingSibling kind).means
  | immediatelyAfter => exact (keeps.leads_nearest .preceding kind).means
  | immediatelyAfterSibling => exact (keeps.leads_nearest .precedingSibling kind).means

theorem siblingCondition_means {target : Step} {condition : Address → Bool}
    (keeps : target.Keeps document condition) :
    (siblingCondition target).Means document fun address =>
      document.addresses.any fun other =>
        condition other &&
          (Address.siblingBefore other address || Address.siblingBefore address other) := by
  have earlier := (keeps.leads (by decide : Axis.precedingSibling ≠ .attributes)).means
  have later := (keeps.leads (by decide : Axis.followingSibling ≠ .attributes)).means
  refine (earlier.or later).group.congr ?_
  intro address _
  rw [Bool.eq_iff_iff]
  simp only [Axis.reaches, Bool.or_eq_true, List.any_eq_true, Bool.and_eq_true]
  constructor
  · intro given
    rcases given with ⟨other, member, holds, order⟩ | ⟨other, member, holds, order⟩
    · exact ⟨other, member, holds, .inl order⟩
    · exact ⟨other, member, holds, .inr order⟩
  · intro given
    rcases given with ⟨other, member, holds, order | order⟩
    · exact .inl ⟨other, member, holds, order⟩
    · exact .inr ⟨other, member, holds, order⟩

theorem countCondition_means {target : Step} {condition : Address → Bool}
    (keeps : target.Keeps document condition) (comparison : Comparison) (count : Nat) :
    (countCondition comparison count target).Means document fun address =>
      comparison.holds
        (document.addresses.filter fun other =>
          condition other && Address.above address other).length
        count := by
  cases comparison with
  | exactly => exact keeps.leads_descend.count_means equal_numbers count
  | atLeast => exact keeps.leads_descend.count_means atLeast_numbers count
  | atMost => exact keeps.leads_descend.count_means atMost_numbers count

end Locator
