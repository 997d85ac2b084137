import Locator.Proofs.XPath.Evaluation
import Locator.Proofs.XPath.Lexing

/-!
# How strings are spelled

A string that holds both kinds of quotes has no literal of its own; it is written as a `concat` call. The
spelled form of an expression has that call in the place of the string, and the same value.
-/

namespace Locator.XPath

open Locator.Text

set_option autoImplicit false

/-- The pieces between apostrophes with the apostrophes between them, each a literal. -/
def concatArguments : List (List Char) → List Expr
  | [] => []
  | [piece] => [.literal (String.ofList piece)]
  | piece :: next :: pieces =>
      .literal (String.ofList piece) :: .literal "'" :: concatArguments (next :: pieces)

/-- The string expression that is written for a string. -/
def spell (value : String) : Expr :=
  if apostrophe ∈ value.toList ∧ quotation ∈ value.toList then
    .call .concat (concatArguments (cut apostrophe value.toList))
  else .literal value

mutual

/-- The expression with every string spelled. -/
def Expr.spelled : Expr → Expr
  | .context => .context
  | .parent => .parent
  | .literal value => spell value
  | .number value => .number value
  | .call function arguments => .call function (spelledAll arguments)
  | .binary operator left right => .binary operator left.spelled right.spelled
  | .group inner => .group inner.spelled
  | .step step => .step step.spelled
  | .anywhere step => .anywhere step.spelled
  | .walk base step => .walk base.spelled step.spelled
  | .descend base step => .descend base.spelled step.spelled
  | .filter base predicate => .filter base.spelled predicate.spelled
  | .raw text => .raw text

def spelledAll : List Expr → List Expr
  | [] => []
  | first :: others => first.spelled :: spelledAll others

def Step.spelled : Step → Step
  | ⟨axis, test, predicates⟩ => ⟨axis, test, spelledAll predicates⟩

end

/-! ## The value -/

variable {document : Document}

theorem evalAll_concatArguments (pieces : List (List Char)) (context : Context) :
    ∃ values, evalAll document (concatArguments pieces) context = some values ∧
      values.flatMap (Value.string document) = [apostrophe].intercalate pieces ∧
      (1 < pieces.length → 1 < values.length) := by
  induction pieces with
  | nil => exact ⟨[], rfl, rfl, by simp⟩
  | cons piece pieces ih =>
      cases pieces with
      | nil =>
          refine ⟨[.characters piece], by simp [concatArguments, evalAll, Expr.eval], ?_, by simp⟩
          simp [Value.string, List.intercalate]
      | cons next pieces =>
          rcases ih with ⟨values, evaluated, joined, -⟩
          refine ⟨.characters piece :: .characters [apostrophe] :: values, ?_, ?_, by simp⟩
          · simp [concatArguments, evalAll, Expr.eval, evaluated, apostrophe]
          · rw [List.flatMap_cons, List.flatMap_cons, joined]
            simp [Value.string, List.intercalate]

theorem length_cut {separator : Char} {text : List Char} (member : separator ∈ text) :
    1 < (cut separator text).length := by
  match pieces : cut separator text with
  | [] => exact absurd pieces (cut_ne_nil separator text)
  | [piece] =>
      have whole := intercalate_cut separator text
      have found : piece ∈ cut separator text := by simp [pieces]
      have clean : separator ∉ piece := separator_not_mem_of_mem_cut found
      rw [pieces] at whole
      have same : text = piece := by simpa [List.intercalate] using whole.symm
      exact absurd (same ▸ member) clean
  | piece :: next :: others => simp

/-- The string expression for a string has the string as its value. -/
theorem eval_spell (value : String) (context : Context) :
    (spell value).eval document context = some (.characters value.toList) := by
  unfold spell
  split
  · rename_i both
    obtain ⟨values, evaluated, joined, several⟩ :=
      @evalAll_concatArguments document (cut apostrophe value.toList) context
    rw [intercalate_cut] at joined
    match values with
    | [] => exact absurd (several (length_cut both.1)) (by simp)
    | [single] => exact absurd (several (length_cut both.1)) (by simp)
    | first :: second :: others =>
        simp only [Expr.eval, evaluated, Option.bind_eq_bind, Option.bind_some, applyFunction, joined]
  · rfl

mutual

/-- Spelling strings changes no value. -/
theorem Expr.eval_spelled (expression : Expr) :
    expression.spelled.eval document = expression.eval document := by
  funext context
  match expression with
  | .context => rfl
  | .parent => rfl
  | .literal value => exact eval_spell value context
  | .number value => rfl
  | .call function arguments => simp only [Expr.spelled, Expr.eval, evalAll_spelledAll arguments]
  | .binary operator left right =>
      simp only [Expr.spelled, Expr.eval, Expr.eval_spelled left, Expr.eval_spelled right]
  | .group inner => simp only [Expr.spelled, Expr.eval, Expr.eval_spelled inner]
  | .step step => simp only [Expr.spelled, Expr.eval, Step.reach_spelled step]
  | .anywhere step => simp only [Expr.spelled, Expr.eval, Step.reach_spelled step]
  | .walk base step =>
      simp only [Expr.spelled, Expr.eval, Expr.eval_spelled base, Step.reach_spelled step]
  | .descend base step =>
      simp only [Expr.spelled, Expr.eval, Expr.eval_spelled base, Step.reach_spelled step]
  | .filter base predicate =>
      simp only [Expr.spelled, Expr.eval, Expr.eval_spelled base, Expr.eval_spelled predicate]
  | .raw text => rfl

theorem evalAll_spelledAll (expressions : List Expr) :
    evalAll document (spelledAll expressions) = evalAll document expressions := by
  funext context
  match expressions with
  | [] => rfl
  | first :: others =>
      simp only [spelledAll, evalAll, Expr.eval_spelled first, evalAll_spelledAll others]

theorem Step.reach_spelled (step : Step) : step.spelled.reach document = step.reach document := by
  funext start
  match step with
  | ⟨axis, test, predicates⟩ => simp only [Step.spelled, Step.reach, narrow_spelledAll predicates]

theorem narrow_spelledAll (predicates : List Expr) :
    narrow document (spelledAll predicates) = narrow document predicates := by
  funext sites
  match predicates with
  | [] => rfl
  | predicate :: predicates =>
      simp only [spelledAll, narrow, Expr.eval_spelled predicate, narrow_spelledAll predicates]

end

/-! ## The text -/

theorem Renders.inside {text : List Char} {tokens : List Token} (renders : Renders text tokens)
    (rest : List Char) (others : List Token) (continued : LexesAfter rest others) :
    Lexes (some .opening) (text ++ ')' :: rest) (tokens ++ .closing :: others) :=
  renders.lexes (')' :: rest) (.closing :: others) rfl continued.closing (some .opening) rfl

theorem renders_concatArguments (pieces : List (List Char)) (nonempty : pieces ≠ [])
    (clean : ∀ piece ∈ pieces, apostrophe ∉ piece) :
    ∃ tokens, Renders
        (join ", \"'\", " (pieces.map fun piece => singleQuoted (String.ofList piece))).toList tokens ∧
      Derives (.arguments (concatArguments pieces)) tokens := by
  induction pieces with
  | nil => exact absurd rfl nonempty
  | cons piece pieces ih =>
      have here : apostrophe ∉ (String.ofList piece).toList := by
        simpa using clean piece (by simp)
      have first := renders_quoted (.inl rfl) here
      have reading {value : String} : Derives (.expression .or (.literal value)) [.literal value] :=
        .loosen (.filter (.primary (.literal value))) (Nat.zero_le _)
      cases pieces with
      | nil =>
          refine ⟨[.literal (String.ofList piece)], ?_, .lastArgument reading⟩
          simpa [join, singleQuoted, apostrophe] using first
      | cons next pieces =>
          obtain ⟨tokens, rest, others⟩ := ih (by simp) fun other member =>
            clean other (List.mem_cons_of_mem piece member)
          have quote : Renders ['"', '\'', '"'] [.literal "'"] :=
            renders_quoted (.inr rfl) (by decide : quotation ∉ "'".toList)
          have more : concatArguments (next :: pieces) ≠ [] := by
            cases pieces <;> simp [concatArguments]
          refine ⟨_, ?_, .argument reading (by simp) (.argument reading more others)⟩
          have all := first.append ((trails_comma quote).append (trails_comma rest))
          simpa [join, singleQuoted, apostrophe] using all

/-- The text of a string is cut into the tokens of its string expression. -/
theorem renders_literal (value : String) :
    ∃ tokens, Renders (literal value).toList tokens ∧ Derives (.primary (spell value)) tokens := by
  unfold literal spell
  by_cases single : apostrophe ∈ value.toList
  · by_cases double : quotation ∈ value.toList
    · obtain ⟨tokens, inside, reading⟩ := renders_concatArguments (cut apostrophe value.toList)
        (cut_ne_nil _ _) fun piece member => separator_not_mem_of_mem_cut member
      rw [if_neg (not_not_intro single), if_neg (not_not_intro double), if_pos ⟨single, double⟩]
      refine ⟨_, ?_, .call reading⟩
      have call := renders_call .concat inside.inside
      simpa [Function.name] using call
    · rw [if_neg (not_not_intro single), if_pos double, if_neg (fun both => double both.2)]
      refine ⟨_, ?_, .literal value⟩
      simpa [doubleQuoted, quotation] using renders_quoted (.inr rfl) double
  · rw [if_pos single, if_neg (fun both => single both.1)]
    refine ⟨_, ?_, .literal value⟩
    simpa [singleQuoted, apostrophe] using renders_quoted (.inl rfl) single

end Locator.XPath
