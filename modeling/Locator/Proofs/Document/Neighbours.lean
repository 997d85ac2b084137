import Locator.Proofs.Document.Tree

/-!
# The next and the previous element

The next element is the first one that starts after a node with everything below it, the previous element
the last one that ends before the node starts. These are not inverse to each other: an element that has
elements below it is nobody's previous element, and from inside an element one can look back past its start.
-/

namespace Locator

set_option autoImplicit false

namespace Address

theorem before_asymm {left right : Address} (order : before left right = true) :
    before right left = false := by
  rw [Bool.eq_false_iff]
  intro back
  have around := before_trans order back
  rw [before_irrefl] at around
  exact Bool.false_ne_true around

theorem before_of_endsBefore {left right : Address} (order : endsBefore left right = true) :
    before left right = true := by
  simp [before, order]

theorem before_of_above {upper lower : Address} (ancestor : above upper lower = true) :
    before upper lower = true := by
  simp [before, ancestor]

/-- What is below a node ends before whatever the node ends before. -/
theorem endsBefore_of_above {upper lower right : Address} (ancestor : above upper lower = true)
    (order : endsBefore upper right = true) : endsBefore lower right = true := by
  induction upper generalizing lower right with
  | nil => cases right <;> simp [endsBefore] at order
  | cons index upper ih =>
      cases lower with
      | nil => simp [above] at ancestor
      | cons index' lower =>
          cases right with
          | nil => simp [endsBefore] at order
          | cons index'' right =>
              simp only [above, Bool.and_eq_true, beq_iff_eq] at ancestor
              rcases ancestor with ⟨rfl, ancestor⟩
              simp only [endsBefore, Bool.or_eq_true, Bool.and_eq_true, decide_eq_true_eq,
                beq_iff_eq] at order ⊢
              rcases order with less | ⟨same, order⟩
              · exact .inl less
              · exact .inr ⟨same, ih ancestor order⟩

theorem not_endsBefore_of_above {upper lower : Address} (ancestor : above upper lower = true) :
    ¬ endsBefore upper lower = true := by
  intro order
  have around := endsBefore_of_above ancestor order
  rw [endsBefore_irrefl] at around
  exact Bool.false_ne_true around

theorem above_trans {upper middle lower : Address} (first : above upper middle = true)
    (second : above middle lower = true) : above upper lower = true := by
  obtain ⟨index, rest, rfl⟩ := above_iff.mp first
  obtain ⟨index', rest', rfl⟩ := above_iff.mp second
  exact above_iff.mpr ⟨index, rest ++ index' :: rest', by simp⟩

end Address

namespace Document

variable (document : Document)

/-- The first element that starts after a node with everything below it. -/
def nextElement (address : Address) : Option Address :=
  document.addresses.find? fun other => document.isElement other && Address.endsBefore address other

/-- The last element that, with everything below it, ends before a node. -/
def previousElement (address : Address) : Option Address :=
  document.addresses.reverse.find? fun other =>
    document.isElement other && Address.endsBefore other address

def hasElementBelow (address : Address) : Bool :=
  document.addresses.any fun other => document.isElement other && Address.above address other

/-- Some element around the second node starts after the first node. -/
def entersAfter (left right : Address) : Bool :=
  document.addresses.any fun other =>
    document.isElement other && Address.above other right && Address.endsBefore left other

end Document

theorem find?_eq_some_iff_least {Item : Type} {relation : Item → Item → Prop} {items : List Item}
    (sorted : items.Pairwise relation) (asymmetric : ∀ left right, relation left right → ¬ relation right left)
    {condition : Item → Bool} {item : Item} :
    items.find? condition = some item ↔
      item ∈ items ∧ condition item = true ∧
        ∀ other ∈ items, condition other = true → other = item ∨ relation item other := by
  induction items with
  | nil => simp
  | cons first others ih =>
      obtain ⟨least, sorted⟩ := List.pairwise_cons.mp sorted
      by_cases holds : condition first = true
      · rw [List.find?_cons_of_pos holds, Option.some.injEq]
        constructor
        · intro equal
          subst equal
          refine ⟨by simp, holds, ?_⟩
          intro other member _
          rcases List.mem_cons.mp member with same | later
          · exact .inl same
          · exact .inr (least other later)
        · intro given
          rcases given with ⟨member, -, minimal⟩
          rcases minimal first (by simp) holds with same | order
          · exact same
          · rcases List.mem_cons.mp member with same | later
            · exact same.symm
            · exact absurd order (asymmetric first item (least item later))
      · rw [List.find?_cons_of_neg holds, ih sorted]
        constructor
        · intro given
          rcases given with ⟨member, satisfied, minimal⟩
          refine ⟨List.mem_cons_of_mem first member, satisfied, ?_⟩
          intro other inside also
          rcases List.mem_cons.mp inside with rfl | later
          · exact absurd also holds
          · exact minimal other later also
        · intro given
          rcases given with ⟨member, satisfied, minimal⟩
          rcases List.mem_cons.mp member with rfl | later
          · exact absurd satisfied holds
          · exact ⟨later, satisfied, fun other inside =>
              minimal other (List.mem_cons_of_mem first inside)⟩

namespace Document

variable {document : Document} {left right : Address}

theorem before_asymmetric (left right : Address) (order : Address.before left right = true) :
    ¬ Address.before right left = true := by
  rw [Address.before_asymm order]
  exact Bool.false_ne_true

theorem nextElement_eq_some_iff : document.nextElement left = some right ↔
    document.isElement right = true ∧ Address.endsBefore left right = true ∧
      ∀ other, document.isElement other = true → Address.endsBefore left other = true →
        other = right ∨ Address.before right other = true := by
  rw [nextElement, find?_eq_some_iff_least document.addresses_sorted before_asymmetric]
  simp only [Bool.and_eq_true]
  constructor
  · intro given
    rcases given with ⟨-, ⟨element, order⟩, minimal⟩
    refine ⟨element, order, ?_⟩
    intro other otherElement later
    exact minimal other (mem_addresses_of_isElement otherElement) ⟨otherElement, later⟩
  · intro given
    rcases given with ⟨element, order, minimal⟩
    refine ⟨mem_addresses_of_isElement element, ⟨element, order⟩, ?_⟩
    intro other _ given
    rcases given with ⟨otherElement, later⟩
    exact minimal other otherElement later

theorem previousElement_eq_some_iff : document.previousElement right = some left ↔
    document.isElement left = true ∧ Address.endsBefore left right = true ∧
      ∀ other, document.isElement other = true → Address.endsBefore other right = true →
        other = left ∨ Address.before other left = true := by
  rw [previousElement, find?_eq_some_iff_least (List.pairwise_reverse.mpr document.addresses_sorted)
    fun left right => before_asymmetric right left]
  simp only [Bool.and_eq_true, List.mem_reverse]
  constructor
  · intro given
    rcases given with ⟨-, ⟨element, order⟩, minimal⟩
    refine ⟨element, order, ?_⟩
    intro other otherElement earlier
    exact minimal other (mem_addresses_of_isElement otherElement) ⟨otherElement, earlier⟩
  · intro given
    rcases given with ⟨element, order, minimal⟩
    refine ⟨mem_addresses_of_isElement element, ⟨element, order⟩, ?_⟩
    intro other _ given
    rcases given with ⟨otherElement, earlier⟩
    exact minimal other otherElement earlier

theorem hasElementBelow_iff : document.hasElementBelow left = true ↔
    ∃ lower, document.isElement lower = true ∧ Address.above left lower = true := by
  simp only [hasElementBelow, List.any_eq_true, Bool.and_eq_true]
  constructor
  · intro given
    rcases given with ⟨lower, -, element, ancestor⟩
    exact ⟨lower, element, ancestor⟩
  · intro given
    rcases given with ⟨lower, element, ancestor⟩
    exact ⟨lower, mem_addresses_of_isElement element, element, ancestor⟩

theorem entersAfter_iff : document.entersAfter left right = true ↔
    ∃ upper, document.isElement upper = true ∧ Address.above upper right = true ∧
      Address.endsBefore left upper = true := by
  simp only [entersAfter, List.any_eq_true, Bool.and_eq_true]
  constructor
  · intro given
    rcases given with ⟨upper, -, ⟨element, ancestor⟩, order⟩
    exact ⟨upper, element, ancestor, order⟩
  · intro given
    rcases given with ⟨upper, element, ancestor, order⟩
    exact ⟨upper, mem_addresses_of_isElement element, ⟨element, ancestor⟩, order⟩

/-- An element with elements below it is nobody's previous element: the last of these is nearer. -/
theorem not_hasElementBelow_of_previousElement (previous : document.previousElement right = some left) :
    document.hasElementBelow left = false := by
  rw [Bool.eq_false_iff]
  intro below
  obtain ⟨lower, element, ancestor⟩ := hasElementBelow_iff.mp below
  obtain ⟨-, order, nearest⟩ := previousElement_eq_some_iff.mp previous
  have down := Address.before_of_above ancestor
  rcases nearest lower element (Address.endsBefore_of_above ancestor order) with same | earlier
  · rw [same, Address.before_irrefl] at down
    exact Bool.false_ne_true down
  · rw [Address.before_asymm down] at earlier
    exact Bool.false_ne_true earlier

/-- Looking back from the next element of an element, one sees that element unless elements below it are
nearer. -/
theorem previousElement_of_nextElement (element : document.isElement left = true)
    (next : document.nextElement left = some right) (childless : document.hasElementBelow left = false) :
    document.previousElement right = some left := by
  obtain ⟨-, order, first⟩ := nextElement_eq_some_iff.mp next
  refine previousElement_eq_some_iff.mpr ⟨element, order, ?_⟩
  intro other otherElement earlier
  by_cases same : other = left
  · exact .inl same
  · rcases Address.before_or_before same with before | after
    · exact .inr before
    · exfalso
      simp only [Address.before, Bool.or_eq_true] at after
      rcases after with inside | later
      · rw [hasElementBelow_iff.mpr ⟨other, otherElement, inside⟩] at childless
        exact Bool.false_ne_true childless.symm
      · have back := Address.before_of_endsBefore earlier
        rcases first other otherElement later with same | beyond
        · rw [same, Address.before_irrefl] at back
          exact Bool.false_ne_true back
        · rw [Address.before_asymm beyond] at back
          exact Bool.false_ne_true back

/-- Looking forward from the previous element of an element, one sees that element unless an element around
it starts in between. -/
theorem nextElement_of_previousElement (element : document.isElement right = true)
    (previous : document.previousElement right = some left)
    (direct : document.entersAfter left right = false) : document.nextElement left = some right := by
  obtain ⟨-, order, last⟩ := previousElement_eq_some_iff.mp previous
  refine nextElement_eq_some_iff.mpr ⟨element, order, ?_⟩
  intro other otherElement later
  by_cases same : other = right
  · exact .inl same
  · rcases Address.before_or_before same with before | after
    · exfalso
      simp only [Address.before, Bool.or_eq_true] at before
      rcases before with around | earlier
      · rw [entersAfter_iff.mpr ⟨other, otherElement, around, later⟩] at direct
        exact Bool.false_ne_true direct.symm
      · have forward := Address.before_of_endsBefore later
        rcases last other otherElement earlier with same | beyond
        · rw [same, Address.before_irrefl] at forward
          exact Bool.false_ne_true forward
        · rw [Address.before_asymm beyond] at forward
          exact Bool.false_ne_true forward
    · exact .inr after

/-- An element is nobody's next element when an element around it starts after its previous element: the
outer one comes first. -/
theorem not_entersAfter_of_nextElement {previous : Address} (element : document.isElement left = true)
    (next : document.nextElement left = some right)
    (near : document.previousElement right = some previous) :
    document.entersAfter previous right = false := by
  rw [Bool.eq_false_iff]
  intro enters
  obtain ⟨upper, upperElement, around, late⟩ := entersAfter_iff.mp enters
  obtain ⟨-, order, first⟩ := nextElement_eq_some_iff.mp next
  obtain ⟨nearElement, nearOrder, last⟩ := previousElement_eq_some_iff.mp near
  -- The outer element does not start after `left`, or it would be the next element.
  have notLater : Address.endsBefore left upper ≠ true := by
    intro later
    rcases first upper upperElement later with same | beyond
    · rw [same, Address.above_irrefl] at around
      exact Bool.false_ne_true around
    · exact before_asymmetric _ _ beyond (Address.before_of_above around)
  have early : Address.before left previous = true := by
    rcases last left element order with same | before
    · exact absurd (same ▸ late) notLater
    · exact before
  have earlier := Address.before_trans early (Address.before_of_endsBefore late)
  simp only [Address.before, Bool.or_eq_true] at earlier
  rcases earlier with outside | later
  · exact Address.not_endsBefore_of_above (Address.above_trans outside around) order
  · exact notLater later

/-! ## Some target is next to the candidate -/

/-- Targets from which a candidate is the previous element, and targets that are its next element: there is
one of the first kind just when there is one of the second kind, if no next element is hidden by elements
below the candidate and no target stands apart inside an element that starts after the candidate. -/
theorem previous_iff_next {candidate : Address} {targets : Address → Prop}
    (element : document.isElement candidate = true)
    (elements : ∀ target, targets target → document.isElement target = true) :
    ((∃ target, targets target ∧ document.previousElement target = some candidate) ↔
        ∃ target, targets target ∧ document.nextElement candidate = some target) ↔
      (∀ target, targets target → document.nextElement candidate = some target →
        document.hasElementBelow candidate = false) ∧
      ∀ target, targets target → document.previousElement target = some candidate →
        document.entersAfter candidate target = true →
        ∃ outer, targets outer ∧ document.nextElement candidate = some outer := by
  constructor
  · intro same
    constructor
    · intro target isTarget next
      obtain ⟨other, -, previous⟩ := same.mpr ⟨target, isTarget, next⟩
      exact not_hasElementBelow_of_previousElement previous
    · intro target isTarget previous _
      exact same.mp ⟨target, isTarget, previous⟩
  · intro given
    rcases given with ⟨childless, outermost⟩
    constructor
    · intro given
      rcases given with ⟨target, isTarget, previous⟩
      cases enters : document.entersAfter candidate target with
      | true => exact outermost target isTarget previous enters
      | false =>
          exact ⟨target, isTarget, nextElement_of_previousElement (elements target isTarget) previous enters⟩
    · intro given
      rcases given with ⟨target, isTarget, next⟩
      exact ⟨target, isTarget,
        previousElement_of_nextElement element next (childless target isTarget next)⟩

theorem next_iff_previous {candidate : Address} {targets : Address → Prop}
    (element : document.isElement candidate = true)
    (elements : ∀ target, targets target → document.isElement target = true) :
    ((∃ target, targets target ∧ document.previousElement candidate = some target) ↔
        ∃ target, targets target ∧ document.nextElement target = some candidate) ↔
      (∀ target, targets target → document.previousElement candidate = some target →
        document.entersAfter target candidate = false) ∧
      ∀ target, targets target → document.nextElement target = some candidate →
        document.hasElementBelow target = true →
        ∃ inner, targets inner ∧ document.previousElement candidate = some inner := by
  constructor
  · intro same
    constructor
    · intro target isTarget previous
      obtain ⟨other, isOther, next⟩ := same.mp ⟨target, isTarget, previous⟩
      exact not_entersAfter_of_nextElement (elements other isOther) next previous
    · intro target isTarget next _
      exact same.mpr ⟨target, isTarget, next⟩
  · intro given
    rcases given with ⟨direct, innermost⟩
    constructor
    · intro given
      rcases given with ⟨target, isTarget, previous⟩
      exact ⟨target, isTarget,
        nextElement_of_previousElement element previous (direct target isTarget previous)⟩
    · intro given
      rcases given with ⟨target, isTarget, next⟩
      cases below : document.hasElementBelow target with
      | true => exact innermost target isTarget next below
      | false =>
          exact ⟨target, isTarget,
            previousElement_of_nextElement (elements target isTarget) next below⟩

end Document

end Locator
