import Locator.Proofs.XPath.Words

/-!
# Connectives

When a text of XPath 1.0 holds, as far as `or`, `and` and parentheses tell: `or` binds weakest, then `and`, and
what stands between them is an operand. An operand that is a pair of parentheses holds when the text in it does.
Of any other operand nothing is said here, so all that is shown is true of every document, every node and every
way to give values to operands.
-/

namespace Locator.XPath

set_option autoImplicit false

namespace Word

def brackets : List Word :=
  [.opening, .closing, .openingBracket, .closingBracket]

/-- How many brackets are open after a word, by how many were before it. -/
def deepen : Word → Nat → Nat
  | .opening, depth | .openingBracket, depth => depth + 1
  | .closing, depth | .closingBracket, depth => depth - 1
  | .operand _, depth | .operator _, depth | .mark _, depth => depth

theorem deepen_plain {word : Word} (noBracket : word ∉ brackets) (depth : Nat) :
    word.deepen depth = depth := by
  cases word <;> first | rfl | exact absurd noBracket (by simp [brackets])

end Word

/-- Every bracket is closed by one of its own kind, and none of the barred operators is outside of brackets. -/
inductive Paired : List String → List Word → Prop where
  | nil {barred : List String} : Paired barred []
  | plain {barred : List String} {word : Word} {words : List Word} (noBracket : word ∉ Word.brackets)
      (allowed : ∀ name ∈ barred, word ≠ .operator name) (rest : Paired barred words) :
      Paired barred (word :: words)
  | parentheses {barred : List String} {inside words : List Word} (inner : Paired [] inside)
      (rest : Paired barred words) : Paired barred (.opening :: (inside ++ .closing :: words))
  | brackets {barred : List String} {inside words : List Word} (inner : Paired [] inside)
      (rest : Paired barred words) :
      Paired barred (.openingBracket :: (inside ++ .closingBracket :: words))

namespace Paired

variable {barred : List String} {words : List Word}

theorem append {others : List Word} (first : Paired barred words) (second : Paired barred others) :
    Paired barred (words ++ others) := by
  induction first with
  | nil => exact second
  | plain noBracket allowed _ ih => exact .plain noBracket allowed (ih second)
  | parentheses inner _ _ ih =>
      rw [List.cons_append, List.append_assoc, List.cons_append]
      exact .parentheses inner (ih second)
  | brackets inner _ _ ih =>
      rw [List.cons_append, List.append_assoc, List.cons_append]
      exact .brackets inner (ih second)

theorem fewer {barred' : List String} (paired : Paired barred words) (fewer : barred' ⊆ barred) :
    Paired barred' words := by
  induction paired with
  | nil => exact .nil
  | plain noBracket allowed _ ih => exact .plain noBracket (fun name mem => allowed name (fewer mem)) (ih fewer)
  | parentheses inner _ _ ih => exact .parentheses inner (ih fewer)
  | brackets inner _ _ ih => exact .brackets inner (ih fewer)

theorem operand (text : String) : Paired barred [.operand text] :=
  .plain (by simp [Word.brackets]) (by simp) .nil

theorem mark {text : String} (rest : Paired barred words) : Paired barred (.mark text :: words) :=
  .plain (by simp [Word.brackets]) (by simp) rest

theorem operator {name : String} (allowed : name ∉ barred) (rest : Paired barred words) :
    Paired barred (.operator name :: words) := by
  refine .plain (by simp [Word.brackets]) ?_ rest
  rintro other mem same
  cases same
  exact allowed mem

end Paired

/-! ## Where a text falls apart -/

/-- The words between those that are the connective and stand outside of brackets, when so many brackets are
open. -/
def pieces (connective : String) : Nat → List Word → List (List Word)
  | _, [] => [[]]
  | depth, word :: words =>
      if depth = 0 ∧ word = .operator connective then [] :: pieces connective depth words
      else (pieces connective (word.deepen depth) words).modifyHead (word :: ·)

theorem pieces_ne_nil (connective : String) (depth : Nat) (words : List Word) :
    pieces connective depth words ≠ [] := by
  induction words generalizing depth with
  | nil => simp [pieces]
  | cons word words ih =>
      rw [pieces]
      split
      · simp
      · simpa using ih (word.deepen depth)

theorem modifyHead_append {items others : List (List Word)} (nonempty : items ≠ [])
    (change : List Word → List Word) :
    (items ++ others).modifyHead change = items.modifyHead change ++ others := by
  cases items with
  | nil => exact absurd rfl nonempty
  | cons first rest => rfl

section Pieces

variable {barred : List String} {words : List Word} {connective : String}

theorem Word.pieces_cons {word : Word} {depth : Nat} (kept : depth ≠ 0 ∨ word ≠ .operator connective)
    (words : List Word) :
    pieces connective depth (word :: words) =
      (pieces connective (word.deepen depth) words).modifyHead (word :: ·) := by
  rw [pieces, if_neg]
  rintro ⟨outside, same⟩
  rcases kept with inside | different
  · exact inside outside
  · exact different same

/-- Words do not fall apart within brackets, nor at connectives that they do not have. -/
theorem Paired.pieces_append (paired : Paired barred words) {depth : Nat}
    (kept : depth ≠ 0 ∨ connective ∈ barred) (rest : List Word) :
    pieces connective depth (words ++ rest) =
      (pieces connective depth rest).modifyHead (words ++ ·) := by
  -- Within brackets nothing is a connective, so what is inside them falls under the first case of `kept`.
  induction paired generalizing depth rest with
  | nil => exact (congrFun List.modifyHead_id _).symm
  | plain noBracket allowed _ ih =>
      rw [List.cons_append, Word.pieces_cons (kept.imp_right (allowed connective)),
        Word.deepen_plain noBracket, ih kept, List.modifyHead_modifyHead]
      rfl
  | parentheses _ _ inside others =>
      rw [List.cons_append, Word.pieces_cons (.inr (by simp)), List.append_assoc, List.cons_append,
        Word.deepen, inside (.inl (by simp)), Word.pieces_cons (.inr (by simp)), Word.deepen,
        Nat.add_sub_cancel, others kept]
      simp [List.modifyHead_modifyHead, Function.comp_def]
  | brackets _ _ inside others =>
      rw [List.cons_append, Word.pieces_cons (.inr (by simp)), List.append_assoc, List.cons_append,
        Word.deepen, inside (.inl (by simp)), Word.pieces_cons (.inr (by simp)), Word.deepen,
        Nat.add_sub_cancel, others kept]
      simp [List.modifyHead_modifyHead, Function.comp_def]

theorem Paired.pieces_whole (paired : Paired barred words) (kept : connective ∈ barred) :
    pieces connective 0 words = [words] := by
  have alone := @Paired.pieces_append barred words connective paired 0 (.inr kept) []
  simpa [pieces] using alone

theorem pieces_parentheses {inside : List Word} (inner : Paired [] inside) (words : List Word) :
    pieces connective 0 (.opening :: (inside ++ .closing :: words)) =
      (pieces connective 0 words).modifyHead fun others => .opening :: (inside ++ .closing :: others) := by
  have group : Paired [connective] (.opening :: (inside ++ [.closing])) := .parentheses inner .nil
  simpa using group.pieces_append (.inr (List.mem_singleton_self connective)) words

theorem pieces_brackets {inside : List Word} (inner : Paired [] inside) (words : List Word) :
    pieces connective 0 (.openingBracket :: (inside ++ .closingBracket :: words)) =
      (pieces connective 0 words).modifyHead fun others =>
        .openingBracket :: (inside ++ .closingBracket :: others) := by
  have group : Paired [connective] (.openingBracket :: (inside ++ [.closingBracket])) := .brackets inner .nil
  simpa using group.pieces_append (.inr (List.mem_singleton_self connective)) words

/-- Words joined by a connective fall apart there. -/
theorem Paired.pieces_joined (paired : Paired barred words) (rest : List Word) :
    pieces connective 0 (words ++ .operator connective :: rest) =
      pieces connective 0 words ++ pieces connective 0 rest := by
  -- The words may have the connective themselves, so each that is outside of brackets is split on.
  induction paired with
  | nil => simp [pieces]
  | @plain _ word others noBracket _ _ ih =>
      by_cases same : word = .operator connective
      · simp [pieces, same, ih]
      · rw [List.cons_append, Word.pieces_cons (.inr same), Word.pieces_cons (.inr same),
          Word.deepen_plain noBracket, ih, modifyHead_append (pieces_ne_nil _ _ _)]
  | parentheses inner _ _ ih =>
      rw [List.cons_append, List.append_assoc, List.cons_append, pieces_parentheses inner,
        pieces_parentheses inner, ih, modifyHead_append (pieces_ne_nil _ _ _)]
  | brackets inner _ _ ih =>
      rw [List.cons_append, List.append_assoc, List.cons_append, pieces_brackets inner,
        pieces_brackets inner, ih, modifyHead_append (pieces_ne_nil _ _ _)]

end Pieces

/-! ## When words hold -/

section Holds

variable (atom : List Word → Prop)

mutual

/-- The words hold as an expression: all the operands of one of its alternatives do. -/
inductive Holds : List Word → Prop where
  | alternative {words operands : List Word} (mem : operands ∈ pieces "or" 0 words)
      (all : ∀ operand ∈ pieces "and" 0 operands, HoldsOperand operand) : Holds words

/-- The words hold as an operand of the connectives. -/
inductive HoldsOperand : List Word → Prop where
  | group {inside : List Word} (inner : Paired [] inside) (holds : Holds inside) :
      HoldsOperand (.opening :: (inside ++ [.closing]))
  | atom {words : List Word}
      (noGroup : ∀ inside, Paired [] inside → words ≠ .opening :: (inside ++ [.closing]))
      (holds : atom words) : HoldsOperand words

end

end Holds

section Laws

variable {atom : List Word → Prop}

theorem holds_iff {words : List Word} :
    Holds atom words ↔
      ∃ operands ∈ pieces "or" 0 words, ∀ operand ∈ pieces "and" 0 operands, HoldsOperand atom operand := by
  constructor
  · rintro ⟨mem, all⟩
    exact ⟨_, mem, all⟩
  · rintro ⟨operands, mem, all⟩
    exact .alternative mem all

theorem holdsOperand_group {inside : List Word} (inner : Paired [] inside) :
    HoldsOperand atom (.opening :: (inside ++ [.closing])) ↔ Holds atom inside := by
  constructor
  · intro holds
    generalize same : Word.opening :: (inside ++ [.closing]) = words at holds
    cases holds with
    | group _ holds =>
        obtain rfl : inside = _ := by simpa using same
        exact holds
    | atom noGroup _ => exact absurd same.symm (noGroup inside inner)
  · exact .group inner

theorem holdsOperand_atom {words : List Word} (noGroup : words.head? ≠ some .opening) :
    HoldsOperand atom words ↔ atom words := by
  constructor
  · rintro (⟨_, _⟩ | ⟨_, holds⟩)
    · exact absurd rfl noGroup
    · exact holds
  · intro holds
    refine .atom ?_ holds
    rintro inside _ rfl
    exact noGroup rfl

/-- Words without a connective outside of brackets hold when they do as an operand. -/
theorem holds_operand {barred : List String} {words : List Word} (paired : Paired barred words)
    (noOr : "or" ∈ barred) (noAnd : "and" ∈ barred) : Holds atom words ↔ HoldsOperand atom words := by
  simp [holds_iff, paired.pieces_whole noOr, paired.pieces_whole noAnd]

/-- A pair of parentheses holds when the words in it do. -/
theorem holds_group {inside : List Word} (inner : Paired [] inside) :
    Holds atom (.opening :: (inside ++ [.closing])) ↔ Holds atom inside := by
  have group : Paired ["or", "and"] (.opening :: (inside ++ [.closing])) := .parentheses inner .nil
  rw [holds_operand group (by simp) (by simp), holdsOperand_group inner]

/-- Words joined by `or` hold when one of them does, whatever connectives they have themselves. -/
theorem holds_or {barred : List String} {left : List Word} (paired : Paired barred left)
    (right : List Word) :
    Holds atom (left ++ .operator "or" :: right) ↔ Holds atom left ∨ Holds atom right := by
  simp only [holds_iff, paired.pieces_joined, List.mem_append, or_and_right, exists_or]

/-- Words joined by `and` hold when both do, unless one of them falls apart at an `or` of its own. -/
theorem holds_and {left right : List Word} (leftPaired : Paired ["or"] left)
    (rightPaired : Paired ["or"] right) :
    Holds atom (left ++ .operator "and" :: right) ↔ Holds atom left ∧ Holds atom right := by
  have joined : Paired ["or"] (left ++ .operator "and" :: right) :=
    leftPaired.append (.operator (by decide) rightPaired)
  have noOr : "or" ∈ ["or"] := List.mem_singleton_self "or"
  simp only [holds_iff, joined.pieces_whole noOr, leftPaired.pieces_whole noOr,
    rightPaired.pieces_whole noOr, List.mem_singleton, exists_eq_left, leftPaired.pieces_joined,
    List.mem_append, or_imp, forall_and]

end Laws

end Locator.XPath
