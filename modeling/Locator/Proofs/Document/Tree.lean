/-!
# Documents

A document is an ordered tree of elements with attributes and of text nodes. A node is told by its
address: the positions, among the children of their parents, of the nodes on the way down to it. The empty
address belongs to the document node above everything. No names have prefixes here.
-/

namespace Locator

set_option autoImplicit false

/-- A text node, or an element with what is below it. -/
inductive Tree where
  | text (content : String)
  | element (name : String) (attributes : List (String × String)) (children : List Tree)

/-- A document by the nodes right below the document node. On a page that is one element. -/
structure Document where
  top : List Tree

/-- The way down from the document node. -/
abbrev Address := List Nat

namespace Address

/-- The node at the first address is an ancestor of the node at the second. -/
def above : Address → Address → Bool
  | [], _ :: _ => true
  | index :: upper, index' :: lower => index == index' && above upper lower
  | _, [] => false

/-- The node at the first address, with everything below it, comes before the node at the second. -/
def endsBefore : Address → Address → Bool
  | index :: left, index' :: right => decide (index < index') || (index == index' && endsBefore left right)
  | _, _ => false

def before (left right : Address) : Bool :=
  above left right || endsBefore left right

/-- The node at the first address is the parent of the node at the second. -/
def isParent (upper lower : Address) : Bool :=
  !lower.isEmpty && lower.dropLast == upper

/-- Two nodes have the same parent, and the first comes first. -/
def siblingBefore (left right : Address) : Bool :=
  !left.isEmpty && !right.isEmpty && left.dropLast == right.dropLast && endsBefore left right

end Address

namespace Tree

def children : Tree → List Tree
  | .text _ => []
  | .element _ _ children => children

def isElement : Tree → Bool
  | .text _ => false
  | .element _ _ _ => true

def hasName (name : String) : Tree → Bool
  | .text _ => false
  | .element own _ _ => own == name

def attributes : Tree → List (String × String)
  | .text _ => []
  | .element _ attributes _ => attributes

/-- The tree at an address below this one. -/
def at? : Tree → Address → Option Tree
  | tree, [] => some tree
  | tree, index :: rest => tree.children[index]?.bind fun child => child.at? rest

mutual

/-- The string value: all text in the tree. -/
def words : Tree → List Char
  | .text content => content.toList
  | .element _ _ children => allWords children

def allWords : List Tree → List Char
  | [] => []
  | tree :: trees => tree.words ++ allWords trees

end

mutual

/-- The addresses in a tree, counted from its own root, in document order. -/
def addresses : Tree → List Address
  | .text _ => [[]]
  | .element _ _ children => [] :: forestAddresses 0 children

/-- The addresses in the trees whose roots are the children from `index` on. -/
def forestAddresses (index : Nat) : List Tree → List Address
  | [] => []
  | tree :: trees => tree.addresses.map (index :: ·) ++ forestAddresses (index + 1) trees

end

end Tree

namespace Document

/-- All elements and text nodes, in document order. -/
def addresses (document : Document) : List Address :=
  Tree.forestAddresses 0 document.top

/-- The element or text node at an address. -/
def at? (document : Document) : Address → Option Tree
  | [] => none
  | index :: rest => document.top[index]?.bind fun tree => tree.at? rest

def isElement (document : Document) (address : Address) : Bool :=
  (document.at? address).any Tree.isElement

def isText (document : Document) (address : Address) : Bool :=
  (document.at? address).any fun tree => !tree.isElement

def attributes (document : Document) (address : Address) : List (String × String) :=
  ((document.at? address).map Tree.attributes).getD []

/-- The string value of the node at an address. -/
def words (document : Document) : Address → List Char
  | [] => Tree.allWords document.top
  | index :: rest => ((document.at? (index :: rest)).map Tree.words).getD []

end Document

/-! ## Relations between addresses -/

namespace Address

theorem above_iff {upper lower : Address} :
    above upper lower = true ↔ ∃ index rest, lower = upper ++ index :: rest := by
  induction upper generalizing lower with
  | nil => cases lower <;> simp [above]
  | cons index upper ih =>
      cases lower with
      | nil => simp [above]
      | cons index' lower =>
          simp only [above, Bool.and_eq_true, beq_iff_eq, ih, List.cons_append, List.cons.injEq]
          constructor
          · intro given
            rcases given with ⟨rfl, next, rest, rfl⟩
            exact ⟨next, rest, rfl, rfl⟩
          · intro given
            rcases given with ⟨next, rest, same, rfl⟩
            exact ⟨same.symm, next, rest, rfl⟩

theorem isParent_iff {upper lower : Address} :
    isParent upper lower = true ↔ ∃ index, lower = upper ++ [index] := by
  simp only [isParent, Bool.and_eq_true, Bool.not_eq_true', List.isEmpty_eq_false_iff, beq_iff_eq]
  constructor
  · intro given
    rcases given with ⟨nonempty, rfl⟩
    exact ⟨lower.getLast nonempty, (List.dropLast_concat_getLast nonempty).symm⟩
  · intro given
    rcases given with ⟨index, rfl⟩
    simp

theorem above_nil_right (upper : Address) : above upper [] = false := by
  cases upper <;> rfl

theorem above_of_isParent {upper lower : Address} (parent : isParent upper lower = true) :
    above upper lower = true := by
  obtain ⟨index, rfl⟩ := isParent_iff.mp parent
  exact above_iff.mpr ⟨index, [], rfl⟩

/-- Below a node is its child, or what is below one of its children. -/
theorem above_iff_parent {upper lower : Address} :
    above upper lower = true ↔
      ∃ middle, (middle = upper ∨ above upper middle = true) ∧ isParent middle lower = true := by
  constructor
  · intro ancestor
    obtain ⟨index, rest, rfl⟩ := above_iff.mp ancestor
    rcases List.eq_nil_or_concat rest with rfl | ⟨front, last, rfl⟩
    · exact ⟨upper, .inl rfl, isParent_iff.mpr ⟨index, rfl⟩⟩
    · refine ⟨upper ++ index :: front, .inr (above_iff.mpr ⟨index, front, rfl⟩), ?_⟩
      exact isParent_iff.mpr ⟨last, by simp⟩
  · intro given
    rcases given with ⟨middle, same | ancestor, parent⟩
    · exact same ▸ above_of_isParent parent
    · obtain ⟨index, rest, rfl⟩ := above_iff.mp ancestor
      obtain ⟨last, rfl⟩ := isParent_iff.mp parent
      exact above_iff.mpr ⟨index, rest ++ [last], by simp⟩

theorem endsBefore_irrefl (address : Address) : endsBefore address address = false := by
  induction address with
  | nil => rfl
  | cons index rest ih => simp [endsBefore, ih]

theorem above_irrefl (address : Address) : above address address = false := by
  induction address with
  | nil => rfl
  | cons index rest ih => simp [above, ih]

theorem before_irrefl (address : Address) : before address address = false := by
  simp [before, above_irrefl, endsBefore_irrefl]

/-- Of two different nodes one comes first. -/
theorem before_or_before {left right : Address} (different : left ≠ right) :
    before left right = true ∨ before right left = true := by
  induction left generalizing right with
  | nil =>
      cases right with
      | nil => exact absurd rfl different
      | cons index right => simp [before, above]
  | cons index left ih =>
      cases right with
      | nil => simp [before, above]
      | cons index' right =>
          rcases Nat.lt_trichotomy index index' with less | rfl | greater
          · simp [before, endsBefore, less]
          · have rest : left ≠ right := by
              intro same
              exact different (same ▸ rfl)
            simpa [before, above, endsBefore] using ih rest
          · simp [before, endsBefore, greater]

theorem before_trans {first second third : Address} (left : before first second = true)
    (right : before second third = true) : before first third = true := by
  induction first generalizing second third with
  | nil =>
      cases third with
      | nil => cases second <;> simp [before, above, endsBefore] at right
      | cons index third => simp [before, above]
  | cons index first ih =>
      cases second with
      | nil => simp [before, above, endsBefore] at left
      | cons index' second =>
          cases third with
          | nil => simp [before, above, endsBefore] at right
          | cons index'' third =>
              have step := @ih second third
              simp only [before, above, endsBefore, Bool.or_eq_true, Bool.and_eq_true, beq_iff_eq,
                decide_eq_true_eq] at left right step ⊢
              grind

end Address

/-! ## The enumeration -/

namespace Tree

mutual

theorem mem_addresses (tree : Tree) (address : Address) :
    address ∈ tree.addresses ↔ (tree.at? address).isSome := by
  match tree with
  | .text content =>
      cases address with
      | nil => simp [addresses, at?]
      | cons index rest => simp [addresses, at?, children]
  | .element name attributes children =>
      cases address with
      | nil => simp [addresses, at?]
      | cons index rest =>
          simp only [addresses, List.mem_cons, reduceCtorEq, false_or, at?, Tree.children]
          rw [mem_forestAddresses children 0 index rest]
          simp

theorem mem_forestAddresses (trees : List Tree) (start index : Nat) (rest : Address) :
    index :: rest ∈ forestAddresses start trees ↔
      start ≤ index ∧ (trees[index - start]?.bind fun tree => tree.at? rest).isSome := by
  match trees with
  | [] => simp [forestAddresses]
  | tree :: trees =>
      simp only [forestAddresses, List.mem_append, List.mem_map, List.cons.injEq]
      rw [mem_forestAddresses trees (start + 1) index rest]
      rcases Nat.lt_trichotomy index start with less | rfl | greater
      · have early : ¬ start + 1 ≤ index := by omega
        have late : ¬ start ≤ index := by omega
        simp only [early, late, false_and, or_false, iff_false]
        intro given
        rcases given with ⟨address, -, same, -⟩
        omega
      · have early : ¬ index + 1 ≤ index := by omega
        simp [early, mem_addresses tree rest]
      · have place : index - start = (index - (start + 1)) + 1 := by omega
        have reached : start + 1 ≤ index := greater
        have other : ¬ ∃ address, address ∈ tree.addresses ∧ start = index ∧ address = rest := by
          intro given
          rcases given with ⟨_, _, same, _⟩
          omega
        rw [place, List.getElem?_cons_succ]
        simp only [reached, true_and, other, false_or]
        constructor
        · intro found
          exact ⟨by omega, found⟩
        · intro found
          exact found.2

end

theorem nil_not_mem_forestAddresses (trees : List Tree) (start : Nat) :
    [] ∉ forestAddresses start trees := by
  induction trees generalizing start with
  | nil => simp [forestAddresses]
  | cons tree trees ih => simp [forestAddresses, ih]

mutual

theorem addresses_sorted (tree : Tree) :
    tree.addresses.Pairwise fun left right => Address.before left right = true := by
  match tree with
  | .text content => simp [addresses]
  | .element name attributes children =>
      simp only [addresses, List.pairwise_cons]
      refine ⟨?_, forestAddresses_sorted children 0⟩
      intro address member
      cases address with
      | nil => exact absurd member (nil_not_mem_forestAddresses children 0)
      | cons index rest => rfl

theorem forestAddresses_sorted (trees : List Tree) (start : Nat) :
    (forestAddresses start trees).Pairwise fun left right => Address.before left right = true := by
  match trees with
  | [] => simp [forestAddresses]
  | tree :: trees =>
      simp only [forestAddresses, List.pairwise_append, List.pairwise_map]
      refine ⟨?_, forestAddresses_sorted trees (start + 1), ?_⟩
      · exact (addresses_sorted tree).imp fun order => by
          simpa [Address.before, Address.above, Address.endsBefore] using order
      · intro left leftMember right rightMember
        obtain ⟨rest, -, rfl⟩ := List.mem_map.mp leftMember
        cases right with
        | nil => exact absurd rightMember (nil_not_mem_forestAddresses trees (start + 1))
        | cons index rest' =>
            have later := ((mem_forestAddresses trees (start + 1) index rest').mp rightMember).1
            have less : start < index := later
            simp [Address.before, Address.endsBefore, less]

end

/-- What is above a node of the tree is in the tree. -/
theorem isSome_at?_of_append (tree : Tree) (front back : Address)
    (found : (tree.at? (front ++ back)).isSome) : (tree.at? front).isSome := by
  induction front generalizing tree with
  | nil => simp [at?]
  | cons index front ih =>
      simp only [List.cons_append, at?] at found ⊢
      cases child : tree.children[index]? with
      | none => simp [child] at found
      | some child => simp_all

end Tree

namespace Document

theorem mem_addresses {document : Document} {address : Address} :
    address ∈ document.addresses ↔ (document.at? address).isSome := by
  cases address with
  | nil => simp [addresses, at?, Tree.nil_not_mem_forestAddresses]
  | cons index rest =>
      simp only [addresses, at?]
      rw [Tree.mem_forestAddresses]
      simp

theorem nil_not_mem_addresses (document : Document) : [] ∉ document.addresses :=
  Tree.nil_not_mem_forestAddresses document.top 0

theorem addresses_sorted (document : Document) :
    document.addresses.Pairwise fun left right => Address.before left right = true :=
  Tree.forestAddresses_sorted document.top 0

theorem addresses_nodup (document : Document) : document.addresses.Nodup := by
  apply document.addresses_sorted.imp
  intro left right order same
  rw [same, Address.before_irrefl] at order
  exact Bool.false_ne_true order

theorem mem_addresses_of_isElement {document : Document} {address : Address}
    (element : document.isElement address = true) : address ∈ document.addresses := by
  rw [mem_addresses]
  simp only [isElement] at element
  cases found : document.at? address with
  | none => simp [found] at element
  | some tree => rfl

theorem mem_addresses_of_isText {document : Document} {address : Address}
    (text : document.isText address = true) : address ∈ document.addresses := by
  rw [mem_addresses]
  simp only [isText] at text
  cases found : document.at? address with
  | none => simp [found] at text
  | some tree => rfl

/-- An ancestor of a node is a node too, or the document node. -/
theorem mem_addresses_of_above {document : Document} {upper lower : Address}
    (member : lower ∈ document.addresses) (ancestor : Address.above upper lower = true) :
    upper = [] ∨ upper ∈ document.addresses := by
  obtain ⟨index, rest, rfl⟩ := Address.above_iff.mp ancestor
  cases upper with
  | nil => exact .inl rfl
  | cons first upper =>
      right
      rw [mem_addresses] at member ⊢
      simp only [List.cons_append, at?] at member ⊢
      cases found : document.top[first]? with
      | none => simp [found] at member
      | some tree =>
          simp only [found, Option.bind_some] at member ⊢
          exact tree.isSome_at?_of_append upper (index :: rest) member

end Document

end Locator
