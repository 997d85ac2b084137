import Locator.Proofs.Document.Tree
import Locator.XPath.Expr

/-!
# Nodes of the data model and axes

What a location step moves between: the document node, elements, text nodes and attributes. An axis is a
relation between two of them. Along an axis that leads back in the document the nearest node comes first.
-/

namespace Locator

open Locator.XPath

set_option autoImplicit false

/-- A node of the data model. The empty address is the document node. -/
inductive Site where
  | node (address : Address)
  /-- An attribute by its element and its place among the attributes there. -/
  | ofAttribute (owner : Address) (index : Nat)
  deriving DecidableEq

namespace Document

/-- All nodes in document order; attributes come right after their element. -/
def sites (document : Document) : List Site :=
  .node [] ::
    document.addresses.flatMap fun address =>
      .node address :: (List.range (document.attributes address).length).map (.ofAttribute address)

def attributeAt (document : Document) (owner : Address) (index : Nat) : String × String :=
  ((document.attributes owner)[index]?).getD ("", "")

/-- The name of a node without its prefix; only elements and attributes have one. -/
def localName (document : Document) : Site → String
  | .node address =>
      match document.at? address with
      | some (.element name _ _) => name
      | _ => ""
  | .ofAttribute owner index => (document.attributeAt owner index).1

def stringValue (document : Document) : Site → List Char
  | .node address => document.words address
  | .ofAttribute owner index => (document.attributeAt owner index).2.toList

end Document

namespace XPath.Axis

/-- Whether the second node is on the axis of the first. An attribute comes after its element and before
what is below it, and it is nobody's child. -/
def reaches : Axis → Site → Site → Bool
  | .self, start, site => site == start
  | .child, .node start, .node site => Address.isParent start site
  | .parent, .node start, .node site => Address.isParent site start
  | .parent, .ofAttribute owner _, .node site => site == owner
  | .ancestor, .node start, .node site => Address.above site start
  | .ancestor, .ofAttribute owner _, .node site => site == owner || Address.above site owner
  | .preceding, .node start, .node site => Address.endsBefore site start
  | .preceding, .ofAttribute owner _, .node site => Address.endsBefore site owner
  | .following, .node start, .node site => Address.endsBefore start site
  | .following, .ofAttribute owner _, .node site => Address.before owner site
  | .precedingSibling, .node start, .node site => Address.siblingBefore site start
  | .followingSibling, .node start, .node site => Address.siblingBefore start site
  | .attributes, .node start, .ofAttribute owner _ => start == owner
  | _, _, _ => false

/-- True of the axes that lead back in the document. -/
def isReverse : Axis → Bool
  | .parent | .ancestor | .preceding | .precedingSibling => true
  | _ => false

end XPath.Axis

namespace Document

/-- The nodes on an axis, the nearest first. -/
def along (document : Document) (axis : Axis) (start : Site) : List Site :=
  let found := document.sites.filter (axis.reaches start)
  if axis.isReverse then found.reverse else found

/-- A node and all below it that are no attributes. -/
def belowOrSelf (document : Document) (start : Site) : List Site :=
  document.sites.filter fun site =>
    site == start ||
      match start, site with
      | .node start, .node site => Address.above start site
      | _, _ => false

/-- The nodes in document order, each once. -/
def gather (document : Document) (found : List Site) : List Site :=
  document.sites.filter fun site => found.contains site

end Document

/-- True of attributes on the attribute axis and of elements on every other. -/
def Document.isPrincipal (document : Document) (axis : Axis) : Site → Bool
  | .node address => axis != .attributes && document.isElement address
  | .ofAttribute _ _ => axis == .attributes

/-- Whether a step along an axis keeps a node. -/
def XPath.NodeTest.keeps (document : Document) (axis : Axis) : NodeTest → Site → Bool
  | .name label, site => document.isPrincipal axis site && document.localName site == label
  | .principal, site => document.isPrincipal axis site
  | .text, .node address => document.isText address
  | .text, .ofAttribute _ _ => false
  | .node, _ => true

/-! ## Elements and text nodes among the nodes -/

/-- A condition on addresses as one on nodes; no attribute satisfies it. -/
def Site.lift (condition : Address → Bool) : Site → Bool
  | .node address => condition address
  | .ofAttribute _ _ => false

namespace Document

theorem node_mem_sites {document : Document} {address : Address} :
    Site.node address ∈ document.sites ↔ address = [] ∨ address ∈ document.addresses := by
  simp only [sites, List.mem_cons, Site.node.injEq, List.mem_flatMap, List.mem_map, reduceCtorEq,
    and_false, exists_false, or_false]
  constructor
  · intro given
    rcases given with root | ⟨found, member, same⟩
    · exact .inl root
    · exact .inr (same ▸ member)
  · intro given
    rcases given with root | member
    · exact .inl root
    · exact .inr ⟨address, member, rfl⟩

theorem mem_of_below (document : Document) {upper lower : Address}
    (inside : Site.node lower ∈ document.sites) (below : Address.above upper lower = true) :
    lower ∈ document.addresses := by
  rcases node_mem_sites.mp inside with root | member
  · rw [root, Address.above_nil_right] at below
    exact absurd below Bool.false_ne_true
  · exact member

/-- The nodes that satisfy a condition on addresses are those addresses, in the same order. -/
theorem filter_sites_lift (document : Document) (condition : Address → Bool)
    (root : condition [] = false) :
    document.sites.filter (Site.lift condition) =
      (document.addresses.filter condition).map .node := by
  have attributesOut (address : Address) (places : List Nat) :
      (places.map (Site.ofAttribute address)).filter (Site.lift condition) = [] := by
    simp [List.filter_eq_nil_iff, Site.lift]
  simp only [sites]
  rw [List.filter_cons_of_neg (by simp [Site.lift, root])]
  induction document.addresses with
  | nil => rfl
  | cons address addresses ih =>
      rw [List.flatMap_cons, List.filter_append, ih]
      by_cases holds : condition address = true
      · rw [List.filter_cons_of_pos (by simpa [Site.lift] using holds), attributesOut]
        simp [holds]
      · rw [List.filter_cons_of_neg (by simpa [Site.lift] using holds), attributesOut]
        simp [holds]

theorem mem_along {document : Document} {axis : Axis} {start site : Site} :
    site ∈ document.along axis start ↔ site ∈ document.sites ∧ axis.reaches start site = true := by
  simp only [along]
  split <;> simp

theorem mem_belowOrSelf {document : Document} {start : Address} {site : Site} :
    site ∈ document.belowOrSelf (.node start) ↔
      site ∈ document.sites ∧
        ∃ address, site = .node address ∧ (address = start ∨ Address.above start address = true) := by
  simp only [belowOrSelf, List.mem_filter, Bool.or_eq_true, beq_iff_eq]
  cases site <;> simp

theorem mem_gather {document : Document} {found : List Site} {site : Site} :
    site ∈ document.gather found ↔ site ∈ document.sites ∧ site ∈ found := by
  simp [gather]

theorem gather_eq_filter (document : Document) (found : List Site) (condition : Site → Bool)
    (same : ∀ site ∈ document.sites, site ∈ found ↔ condition site = true) :
    document.gather found = document.sites.filter condition := by
  apply List.filter_congr
  intro site member
  rw [Bool.eq_iff_iff, List.contains_iff_mem, same site member]

/-- A node that a step other than along the attribute axis keeps by name, kind or text is an element or
a text node. -/
theorem keeps_is_node {document : Document} {axis : Axis} {test : NodeTest} {site : Site}
    (notNode : test ≠ .node) (notAttributes : axis ≠ .attributes)
    (kept : test.keeps document axis site = true) :
    ∃ address, site = .node address ∧ address ∈ document.addresses := by
  cases site with
  | node address =>
      refine ⟨address, rfl, ?_⟩
      cases test with
      | name name =>
          simp only [NodeTest.keeps, isPrincipal, Bool.and_eq_true] at kept
          exact mem_addresses_of_isElement kept.1.2
      | principal =>
          simp only [NodeTest.keeps, isPrincipal, Bool.and_eq_true] at kept
          exact mem_addresses_of_isElement kept.2
      | text => exact mem_addresses_of_isText kept
      | node => exact absurd rfl notNode
  | ofAttribute owner index =>
      cases test <;> simp_all [NodeTest.keeps, isPrincipal]

end Document

end Locator
