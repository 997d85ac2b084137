import Locator.Proofs.Path.Kinds
import Locator.Proofs.Path.Meaning
import Locator.Proofs.XPath.Leaves

/-!
# The strings and names of a path

Which strings and names of a path come into its expression, and in which form: words with a blank at both
ends, patterns cut at the stars, and names as name tests only when they are plain.
-/

namespace Locator

open Locator.Text Locator.XPath

set_option autoImplicit false

/-! ## What a path may contribute -/

def nameLeaf (name : String) : Leaf :=
  if isPlainName name then .name name else .string name

def wordLeaf (word : String) : Leaf :=
  .string (" " ++ word ++ " ")

def patternLeaves (pattern : String) : List Leaf :=
  (cut '*' pattern.toList).map fun piece => .string (String.ofList piece)

/-- The strings and names that come from no path. -/
def fixedLeaves : List Leaf :=
  [.string " ", .name "class", .name "id", .name "checked", .name "selected", .name "disabled"]

def Test.leaves : Test → List Leaf
  | .hasAttribute name => [nameLeaf name]
  | .attributeEquals name value | .attributeContains name value => [nameLeaf name, .string value]
  | .attributeHasWord name word => [nameLeaf name, wordLeaf word]
  | .hasId id => [.string id]
  | .hasClass name => [wordLeaf name]
  | .hasAnyClass names | .hasAllClasses names => names.map wordLeaf
  | .classContains fragment => [.string fragment]
  | .text _ .pattern value => patternLeaves value
  | .text _ _ value => [.string value]
  | .sibling _ | .childCount _ | .hasChildren | .noChildren | .state _ => []

mutual

/-- What the strings of a path may become in its expression. -/
def Path.leaves : Path → List Leaf
  | ⟨node, constraints, _⟩ => node.leaves ++ constraintLeaves constraints

def Node.leaves : Node → List Leaf
  | .element name => [nameLeaf name]
  | .any => []
  | .text content => [.string content]
  | .union left right => left.leaves ++ right.leaves
  | .occurrence path _ => path.leaves

def constraintLeaves : List Constraint → List Leaf
  | [] => []
  | .property property :: others => property.leaves ++ constraintLeaves others
  | .relation _ target :: others => target.leaves ++ constraintLeaves others

def Property.leaves : Property → List Leaf
  | .test test => test.leaves
  | .related _ target | .siblingOf target | .occurrences _ _ target => target.leaves
  | .custom _ _ => []
  | .and left right | .or left right => left.leaves ++ right.leaves
  | .not inner => inner.leaves

end

variable {allowed : List Leaf}

/-! ## Conditions on strings -/

theorem XPath.Expr.Draws.operand {expression : Expr} (draws : expression.Draws allowed .path)
    {level : Level} : expression.Draws allowed level :=
  draws.weaken level.rank_le

theorem draws_equals {left right : Expr} (leftDraws : left.Draws allowed .equality)
    (rightDraws : right.Draws allowed .relational) :
    (Expr.equals left right).Draws allowed .equality :=
  leftDraws.binary rfl rightDraws (by decide)

theorem attributeNamed_draws {name : String} (member : nameLeaf name ∈ allowed) :
    (attributeNamed name).Draws allowed .path := by
  unfold nameLeaf at member
  unfold attributeNamed
  split
  · rename_i plain
    rw [if_pos plain] at member
    have fits : (NodeTest.name name).fits = true := plain
    refine Step.Draws.expression (step_draws fits ?_ (by simp))
    simpa [NodeTest.leaves] using member
  · rename_i notPlain
    rw [if_neg notPlain] at member
    have localName : (Expr.call .localName []).Draws allowed .equality := draws_call _ (by simp)
    have named := draws_equals localName (draws_literal member)
    refine Step.Draws.expression (step_draws rfl (List.nil_subset _) ?_)
    intro predicate same
    exact List.mem_singleton.mp same ▸ named.weaken (by decide)

theorem hasWord_draws {subject : Expr} (draws : subject.Draws allowed .path) (blank : .string " " ∈ allowed)
    {word : String} (member : wordLeaf word ∈ allowed) :
    (hasWord subject word).Draws allowed .path := by
  have normalized : (Expr.call .normalizeSpace [subject]).Draws allowed .or := draws.operand.call _
  apply draws_call
  intro argument inside
  simp only [List.mem_cons, List.not_mem_nil, or_false] at inside
  rcases inside with rfl | rfl
  · apply draws_call
    intro part place
    simp only [List.mem_cons, List.not_mem_nil, or_false] at place
    rcases place with rfl | rfl | rfl
    · exact draws_literal blank
    · exact normalized
    · exact draws_literal blank
  · exact draws_literal member

theorem draws_call_literal (function : Function) {subject : Expr} (draws : subject.Draws allowed .path)
    {value : String} (member : .string value ∈ allowed) :
    (Expr.call function [subject, .literal value]).Draws allowed .path := by
  apply draws_call
  intro argument inside
  simp only [List.mem_cons, List.not_mem_nil, or_false] at inside
  rcases inside with rfl | rfl
  · exact draws.operand
  · exact draws_literal member

theorem draws_substring {subject place : Expr} (draws : subject.Draws allowed .path)
    (placeDraws : place.Draws allowed .or) :
    (Expr.call .substring [subject, place]).Draws allowed .path := by
  apply draws_call
  intro argument inside
  simp only [List.mem_cons, List.not_mem_nil, or_false] at inside
  rcases inside with rfl | rfl
  · exact draws.operand
  · exact placeDraws

theorem endsWith_draws {subject : Expr} (draws : subject.Draws allowed .path) {value : String}
    (member : .string value ∈ allowed) : (endsWith subject value).Draws allowed .equality := by
  have length : (Expr.call .stringLength [subject]).Draws allowed .additive := draws.operand.call _
  have multiplicative : Level.rank .additive < Level.rank .multiplicative := by decide
  have shorter : (Expr.binary .minus (.call .stringLength [subject])
      (.number value.toList.length)).Draws allowed .additive :=
    length.binary rfl (draws_number _) multiplicative
  have place : (Expr.binary .plus (.binary .minus (.call .stringLength [subject])
      (.number value.toList.length)) (.number 1)).Draws allowed .additive :=
    shorter.binary rfl (draws_number _) multiplicative
  exact draws_equals (draws_substring draws (place.weaken (by decide))).operand (draws_literal member)

theorem wildcardRest_draws {rest : Expr} (draws : rest.Draws allowed .path) (pieces : List String)
    (members : ∀ piece ∈ pieces, .string piece ∈ allowed) :
    ∀ condition ∈ wildcardRest rest pieces, condition.Draws allowed .equality := by
  induction pieces generalizing rest with
  | nil => simp [wildcardRest]
  | cons piece pieces ih =>
      have here : .string piece ∈ allowed := members piece (by simp)
      have later : ∀ piece ∈ pieces, .string piece ∈ allowed := fun other member =>
        members other (List.mem_cons_of_mem piece member)
      intro condition inside
      cases pieces with
      | nil =>
          simp only [wildcardRest] at inside
          split at inside
          · simp at inside
          · exact List.mem_singleton.mp inside ▸ endsWith_draws draws here
      | cons next pieces =>
          simp only [wildcardRest] at inside
          split at inside
          · exact ih draws later condition inside
          · rcases List.mem_cons.mp inside with rfl | inside
            · exact (draws_call_literal .contains draws here).operand
            · exact ih (draws_call_literal .substringAfter draws here) later condition inside

theorem wildcard_draws {subject : Expr} (draws : subject.Draws allowed .path) {pattern : String}
    (members : patternLeaves pattern ⊆ allowed) : (wildcard subject pattern).Draws allowed .equality := by
  have pieceAllowed : ∀ piece ∈ (cut '*' pattern.toList).map String.ofList, .string piece ∈ allowed := by
    intro piece member
    obtain ⟨characters, inside, rfl⟩ := List.mem_map.mp member
    exact members (List.mem_map.mpr ⟨characters, inside, rfl⟩)
  have whole : (cut '*' pattern.toList).map String.ofList = [pattern] →
      (Expr.equals subject (.literal pattern)).Draws allowed .equality := by
    intro same
    have member : .string pattern ∈ allowed := pieceAllowed pattern (by simp [same])
    exact draws_equals draws.operand (draws_literal member)
  have always : (Expr.call .true []).Draws allowed .equality := draws_call _ (by simp)
  unfold wildcard
  split
  · rename_i none
    exact absurd (List.map_eq_nil_iff.mp none) (cut_ne_nil _ _)
  · rename_i piece single
    obtain ⟨characters, one, same⟩ := List.map_eq_singleton_iff.mp single
    have joined := intercalate_cut '*' pattern.toList
    rw [one] at joined
    have all : characters = pattern.toList := by simpa [List.intercalate] using joined
    apply whole
    rw [one, all, List.map_singleton, String.ofList_toList]
  · rename_i first pieces _ several
    rw [several] at pieceAllowed
    have here : .string first ∈ allowed := pieceAllowed first (by simp)
    have later : ∀ piece ∈ pieces, .string piece ∈ allowed := fun other member =>
      pieceAllowed other (List.mem_cons_of_mem first member)
    apply draws_joined .and (by decide) always
    intro condition inside
    split at inside
    · exact wildcardRest_draws draws pieces later condition inside
    · rcases List.mem_cons.mp inside with rfl | inside
      · exact (draws_call_literal .startsWith draws here).operand
      · have rest := draws_substring draws (draws_number (first.toList.length + 1))
        exact wildcardRest_draws rest pieces later condition inside

end Locator
