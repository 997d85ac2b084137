import Locator.Proofs.Path.Leaves
import Locator.Proofs.XPath.Wildcard

/-!
# Patterns and endings as text

The text that is written for a pattern is a condition of XPath 1.0, and it is true of just the strings that the
pattern becomes when every star is replaced by some string.
-/

namespace Locator

open Locator.Text Locator.XPath

set_option autoImplicit false

/-- The pattern with the runs, one after the other, in the place of its stars. Every other character of the
pattern takes a place of its own. -/
def fill : (pattern : List Char) → (runs : List (List Char)) → List Char
  | [], _ => []
  | first :: pattern, runs =>
      if first = '*' then runs.headD [] ++ fill pattern runs.tail
      else first :: fill pattern runs

/-- The text is the pattern with every star replaced by some string, which may be empty. -/
def Fills (pattern text : List Char) : Prop :=
  ∃ runs : List (List Char), runs.length = pattern.count '*' ∧ fill pattern runs = text

theorem fills_star {pattern text : List Char} :
    Fills ('*' :: pattern) text ↔ ∃ run rest, text = run ++ rest ∧ Fills pattern rest := by
  constructor
  · rintro ⟨runs, enough, rfl⟩
    cases runs with
    | nil => simp at enough
    | cons run runs =>
        exact ⟨run, fill pattern runs, by simp [fill], runs, by simpa using enough, rfl⟩
  · rintro ⟨run, rest, rfl, runs, enough, rfl⟩
    exact ⟨run :: runs, by simp [enough], by simp [fill]⟩

theorem fills_cons {first : Char} (noStar : first ≠ '*') {pattern text : List Char} :
    Fills (first :: pattern) text ↔ ∃ rest, text = first :: rest ∧ Fills pattern rest := by
  have count : (first :: pattern).count '*' = pattern.count '*' := List.count_cons_of_ne noStar
  constructor
  · rintro ⟨runs, enough, rfl⟩
    exact ⟨fill pattern runs, by simp [fill, noStar], runs, count ▸ enough, rfl⟩
  · rintro ⟨rest, rfl, runs, enough, rfl⟩
    exact ⟨runs, count ▸ enough, by simp [fill, noStar]⟩

/-- Trying the endings of the text one after the other finds a way to replace every star when there is one. -/
theorem matchesPattern_iff_fills {pattern text : List Char} :
    matchesPattern pattern text = true ↔ Fills pattern text := by
  induction pattern generalizing text with
  | nil =>
      constructor
      · intro empty
        exact ⟨[], rfl, (List.isEmpty_iff.mp empty).symm⟩
      · rintro ⟨runs, -, rfl⟩
        rfl
  | cons first pattern ih =>
      by_cases star : first = '*'
      · subst star
        -- Both sides cut the text in two: what the star stands for and what the rest has to match.
        rw [matchesPattern_star, fills_star]
        simp only [ih]
      · rw [fills_cons star]
        simp only [matchesPattern, if_neg star]
        cases text with
        | nil => simp
        | cons character text =>
            rw [Bool.and_eq_true, beq_iff_eq, ih]
            constructor
            · rintro ⟨rfl, matched⟩
              exact ⟨text, rfl, matched⟩
            · rintro ⟨rest, same, matched⟩
              cases same
              exact ⟨rfl, matched⟩

theorem matchesPattern_stars (front back : List Char) :
    matchesPattern (front ++ '*' :: '*' :: back) = matchesPattern (front ++ '*' :: back) := by
  induction front with
  | nil =>
      funext text
      exact matchesPattern_star_star
  | cons first front ih =>
      funext text
      simp only [List.cons_append, matchesPattern, ih]

/-! ## The text of a condition -/

/-- The text is read as one operand, and its value in a context is true when the condition holds and false
when it does not. -/
def ReadsAsTruth (document : Document) (context : Context) (text : String) (condition : Prop) : Prop :=
  ∃ tokens expression truth, Lexes none text.toList tokens ∧
    Derives (.expression .equality expression) tokens ∧
      expression.eval document context = some (.truth truth) ∧ (truth = true ↔ condition)

variable {document : Document} {context : Context}

theorem XPath.Expr.Draws.readsAsTruth {allowed : List Leaf} {expression : Expr}
    (draws : expression.Draws allowed .equality) {truth : Bool} {condition : Prop}
    (evaluated : expression.eval document context = some (.truth truth))
    (holds : truth = true ↔ condition) :
    ReadsAsTruth document context expression.print condition := by
  obtain ⟨tokens, renders, shows⟩ := expression.written draws.fits
  rw [← Expr.eval_spelled] at evaluated
  exact ⟨tokens, expression.spelled, truth, renders.whole, shows.operand draws.binds, evaluated, holds⟩

/-- For a subject with some text as its value, the text written for a pattern is true of the subject when the
pattern becomes its text by replacing every star, whatever the pattern is and however short the text: pieces of
the pattern are never laid over one another. Two stars side by side, also at an end, are as good as one. The text
written for an ending is true when the subject ends so. -/
theorem patterns_and_endings {subject : Expr} {text : List Char} (fits : subject.fits = true)
    (isPath : subject.form.isPath = true) (isText : subject.IsText document context text) :
    (∀ pattern : String, ReadsAsTruth document context (wildcard subject pattern).print
      (Fills pattern.toList text)) ∧
    (∀ front back : String, (wildcard subject (front ++ "**" ++ back)).eval document context =
      (wildcard subject (front ++ "*" ++ back)).eval document context) ∧
    ∀ value : String, ReadsAsTruth document context (endsWith subject value).print
      (∃ front, text = front ++ value.toList) := by
  have draws (others : List Leaf) : subject.Draws (subject.leaves ++ others) .path :=
    ⟨fits, List.subset_append_left _ _, Form.rank_of_isPath isPath .path⟩
  refine ⟨?_, ?_, ?_⟩
  · intro pattern
    have written := wildcard_draws (draws (patternLeaves pattern)) (List.subset_append_right _ _)
    exact written.readsAsTruth (isText.wildcard pattern) matchesPattern_iff_fills
  · intro front back
    rw [isText.wildcard, isText.wildcard]
    simp [matchesPattern_stars]
  · intro value
    have written := endsWith_draws (draws [.string value]) (List.mem_append_right _ (List.mem_singleton_self _))
    refine written.readsAsTruth (isText.endsWith value) ?_
    rw [List.isSuffixOf_iff_suffix]
    exact exists_congr fun front => eq_comm

/-- The text `aba` starts with `ab` and ends with `ba`, but not with room for both. -/
theorem patterns_and_endings_overlap :
    Expr.context.fits = true ∧ Expr.context.form.isPath = true ∧
    Expr.context.IsText ⟨[.element "p" [] [.text "aba"]]⟩ ⟨.node [0, 0], 1, 1⟩ "aba".toList ∧
    ReadsAsTruth ⟨[.element "p" [] [.text "aba"]]⟩ ⟨.node [0, 0], 1, 1⟩
      (wildcard .context "ab*ba").print (Fills "ab*ba".toList "aba".toList) ∧
    ¬ Fills "ab*ba".toList "aba".toList := by
  have isText : Expr.context.IsText ⟨[.element "p" [] [.text "aba"]]⟩ ⟨.node [0, 0], 1, 1⟩
      "aba".toList := isText_context _
  refine ⟨rfl, rfl, isText, (patterns_and_endings rfl rfl isText).1 "ab*ba", ?_⟩
  rw [← matchesPattern_iff_fills]
  decide

end Locator
