import Locator.Proofs.XPath.Fragments

/-!
# Expressions by their words

The grammar of XPath 1.0 in full, over words. As words tell names, numbers, strings and variables not apart, a
little more than the expressions of the recommendation can be read; every one of these can.
-/

namespace Locator.XPath

set_option autoImplicit false

/-- The operators of a level that stand between two operands. -/
def Level.operators : Level → List String
  | .or => ["or"]
  | .and => ["and"]
  | .equality => ["=", "!="]
  | .relational => ["<", ">", "<=", ">="]
  | .additive => ["+", "-"]
  | .multiplicative => ["*", "div", "mod"]
  | .union => ["|"]
  | .unary | .path => []

inductive Part where
  | expression (level : Level)
  | arguments
  deriving DecidableEq

/-- The words can be read as a part of an expression. -/
inductive Reads : Part → List Word → Prop where
  | tighter {level inner : Level} {words : List Word} (next : level.tighter = some inner)
      (reading : Reads (.expression inner) words) : Reads (.expression level) words
  | operation {level inner : Level} {name : String} {before after : List Word}
      (named : name ∈ level.operators) (next : level.tighter = some inner)
      (left : Reads (.expression level) before) (right : Reads (.expression inner) after) :
      Reads (.expression level) (before ++ .operator name :: after)
  | negative {words : List Word} (reading : Reads (.expression .unary) words) :
      Reads (.expression .unary) (.operator "-" :: words)
  -- Primary expressions, and name tests and the short forms of steps.
  | operand (text : String) : Reads (.expression .path) [.operand text]
  | group {inside : List Word} (reading : Reads (.expression .or) inside) :
      Reads (.expression .path) (.opening :: (inside ++ [.closing]))
  -- Function calls and node types.
  | call (text : String) {inside : List Word} (reading : Reads .arguments inside) :
      Reads (.expression .path) (.operand text :: .opening :: (inside ++ [.closing]))
  | noArgument : Reads .arguments []
  | lastArgument {words : List Word} (reading : Reads (.expression .or) words) : Reads .arguments words
  | argument {before after : List Word} (reading : Reads (.expression .or) before)
      (others : Reads .arguments after) : Reads .arguments (before ++ .mark "," :: after)
  -- Predicates, axes and location paths.
  | predicate {before inside : List Word} (base : Reads (.expression .path) before)
      (reading : Reads (.expression .or) inside) :
      Reads (.expression .path) (before ++ .openingBracket :: (inside ++ [.closingBracket]))
  | attributes {words : List Word} (reading : Reads (.expression .path) words) :
      Reads (.expression .path) (.mark "@" :: words)
  | axis (name : String) {words : List Word} (reading : Reads (.expression .path) words) :
      Reads (.expression .path) (.operand name :: .mark "::" :: words)
  | root : Reads (.expression .path) [.operator "/"]
  | rooted {name : String} (slash : name ∈ ["/", "//"]) {words : List Word}
      (reading : Reads (.expression .path) words) : Reads (.expression .path) (.operator name :: words)
  | walk {name : String} (slash : name ∈ ["/", "//"]) {before after : List Word}
      (base : Reads (.expression .path) before) (reading : Reads (.expression .path) after) :
      Reads (.expression .path) (before ++ .operator name :: after)

/-- What binds tighter can stand where something that binds weaker is allowed. -/
theorem Reads.loosen {level inner : Level} {words : List Word} (reading : Reads (.expression inner) words)
    (weaker : level.rank ≤ inner.rank) : Reads (.expression level) words := by
  induction distance : inner.rank - level.rank generalizing level with
  | zero =>
      have same : level = inner := Level.eq_of_rank_eq (by omega)
      exact same ▸ reading
  | succ distance ih =>
      have notPath : level ≠ .path := by
        rintro rfl
        have bound : inner.rank ≤ Level.path.rank := by cases inner <;> decide
        omega
      obtain ⟨between, next, rank⟩ := Level.exists_tighter notPath
      exact .tighter next (ih (by omega) (by omega))

namespace Part

/-- What is no operator outside of brackets: below the weakest level there is no `or`. -/
def barred : Part → List String
  | .expression level => if 0 < level.rank then ["or"] else []
  | .arguments => []

theorem barred_tighter {level inner : Level} (next : level.tighter = some inner) :
    (expression level).barred ⊆ (expression inner).barred := by
  cases level <;> cases next <;> decide

theorem operator_not_barred {level : Level} : ∀ name ∈ level.operators, name ∉ (expression level).barred := by
  cases level <;> decide

theorem slash_not_barred : ∀ name ∈ ["/", "//"], name ∉ (expression .path).barred := by
  decide

end Part

/-- What can be read has its brackets closed. The induction follows the levels down, where more is barred. -/
theorem Reads.paired {part : Part} {words : List Word} (reading : Reads part words) :
    Paired part.barred words := by
  induction reading with
  | tighter next _ ih => exact ih.fewer (Part.barred_tighter next)
  | operation named next _ _ left right =>
      exact left.append (.operator (Part.operator_not_barred _ named) (right.fewer (Part.barred_tighter next)))
  | negative _ ih => exact .operator (by decide) ih
  | operand text => exact .operand text
  | group _ ih => exact .parentheses ih .nil
  | call text _ ih => exact (Paired.operand text).append (.parentheses ih .nil)
  | noArgument => exact .nil
  | lastArgument _ ih => exact ih
  | argument _ _ first others => exact first.append (.mark others)
  | predicate _ _ base ih => exact base.append (.brackets ih .nil)
  | attributes _ ih => exact .mark ih
  | axis name _ ih => exact (Paired.operand name).append (.mark ih)
  | root => exact .operator (by decide) .nil
  | rooted slash _ ih => exact .operator (Part.slash_not_barred _ slash) ih
  | walk slash _ _ base ih => exact base.append (.operator (Part.slash_not_barred _ slash) ih)

/-- The words start with one that is no comparison. -/
def Opens (words : List Word) : Prop :=
  ∃ first others, words = first :: others ∧ first ≠ .operator "="

/-- The words end with an operand, or with the root of the document, after which no operator can come. -/
def Ends (words : List Word) : Prop :=
  ∃ front last, words = front ++ [last] ∧ (last ≠ .operator "/" → Word.awaitsOperand (some last) = false)

theorem Opens.append {words : List Word} (opens : Opens words) (rest : List Word) : Opens (words ++ rest) := by
  rcases opens with ⟨first, others, rfl, different⟩
  exact ⟨first, others ++ rest, rfl, different⟩

theorem Ends.after {words : List Word} (ends : Ends words) (before : List Word) : Ends (before ++ words) := by
  rcases ends with ⟨front, last, rfl, ended⟩
  exact ⟨before ++ front, last, by simp, ended⟩

theorem Reads.opens {part : Part} {words : List Word} (reading : Reads part words)
    (isExpression : part ≠ .arguments) : Opens words := by
  induction reading with
  | tighter _ _ ih => exact ih (by simp)
  | operation _ _ _ _ left _ => exact (left (by simp)).append _
  | negative _ _ => exact ⟨_, _, rfl, by decide⟩
  | operand text => exact ⟨_, _, rfl, by simp⟩
  | group _ _ => exact ⟨_, _, rfl, by simp⟩
  | call text _ _ => exact ⟨_, _, rfl, by simp⟩
  | noArgument => exact absurd rfl isExpression
  | lastArgument _ _ => exact absurd rfl isExpression
  | argument _ _ _ _ => exact absurd rfl isExpression
  | predicate _ _ base _ => exact (base (by simp)).append _
  | attributes _ _ => exact ⟨_, _, rfl, by simp⟩
  | axis name _ _ => exact ⟨_, _, rfl, by simp⟩
  | root => exact ⟨_, _, rfl, by decide⟩
  | rooted slash _ _ =>
      refine ⟨_, _, rfl, ?_⟩
      rintro same
      cases same
      exact absurd slash (by decide)
  | walk _ _ _ base _ => exact (base (by simp)).append _

theorem Reads.ends {part : Part} {words : List Word} (reading : Reads part words)
    (isExpression : part ≠ .arguments) : Ends words := by
  induction reading with
  | tighter _ _ ih => exact ih (by simp)
  | operation _ _ _ _ _ right => exact ((right (by simp)).after [_]).after _
  | negative _ ih => exact (ih (by simp)).after [_]
  | operand text => exact ⟨[], _, rfl, fun _ => rfl⟩
  | @group inside _ _ => exact ⟨.opening :: inside, _, rfl, fun _ => rfl⟩
  | @call text inside _ _ => exact ⟨.operand text :: .opening :: inside, _, rfl, fun _ => rfl⟩
  | noArgument => exact absurd rfl isExpression
  | lastArgument _ _ => exact absurd rfl isExpression
  | argument _ _ _ _ => exact absurd rfl isExpression
  | @predicate before inside _ _ _ _ =>
      exact ⟨before ++ .openingBracket :: inside, .closingBracket, by simp, fun _ => rfl⟩
  | attributes _ ih => exact (ih (by simp)).after [_]
  | axis name _ ih => exact (ih (by simp)).after [_, _]
  | root => exact ⟨[], _, rfl, fun different => absurd rfl different⟩
  | rooted _ _ ih => exact (ih (by simp)).after [_]
  | walk _ _ _ _ ih => exact ((ih (by simp)).after [_]).after _

/-- The text is an expression of this level, and it does not end with the bare root, after which the name of an
operator would be read as the name of an element. -/
def IsExpression (level : Level) (text : String) : Prop :=
  ∃ words, Cuts none text.toList words ∧ Reads (.expression level) words ∧
    words.getLast? ≠ some (.operator "/")

theorem Cuts.avoids_equal {text : List Char} {words : List Word} (cuts : Cuts none text words)
    (opens : Opens words) : Avoids '=' text := by
  rcases opens with ⟨first, others, rfl, different⟩
  cases text with
  | nil => cases cuts with
    | word next _ => exact absurd next (by simp [Word.next])
  | cons character rest =>
      refine ⟨character, rest, rfl, ?_⟩
      rintro rfl
      cases cuts with
      | blank space _ => exact absurd space (by decide)
      | word next _ =>
          have equal : Word.next none ('=' :: rest) = some (.operator "=", rest) := rfl
          rw [equal, Option.some.injEq, Prod.mk.injEq] at next
          exact different next.1.symm

/-- An expression is an operand on its own, and below the weakest level it has no `or` outside of brackets. -/
theorem IsExpression.contained {level : Level} {text : String} (isExpression : IsExpression level text) :
    Contained (Part.expression level).barred text := by
  rcases isExpression with ⟨words, cuts, reading, noRoot⟩
  obtain ⟨front, last, same, ended⟩ := reading.ends (by simp)
  have lastWord : words.getLast? = some last := by simp [same]
  refine ⟨words, cuts, by simp [same], ?_, reading.paired, cuts.avoids_equal (reading.opens (by simp))⟩
  intro other mem
  obtain rfl : last = other := by simpa [lastWord] using mem
  apply ended
  rintro rfl
  exact noRoot lastWord

end Locator.XPath
