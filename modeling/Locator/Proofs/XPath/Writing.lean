import Locator.Proofs.XPath.Spelling

/-!
# Printed expressions can be read

The printer adds no parentheses. So a printed expression can be read back when the tree has them where the
grammar needs them; then the reading is the spelled form of the tree.
-/

namespace Locator.XPath

open Locator.Text

set_option autoImplicit false

/-- The most specific kind of phrase that an expression is. -/
inductive Form where
  | operation (operator : Operator)
  | location
  /-- A filter expression with a relative location path after it. -/
  | continued
  | filtered
  | primary
  deriving DecidableEq

namespace Form

def rank : Form → Nat
  | .operation operator => operator.level.rank
  | _ => Level.path.rank

def isPath : Form → Bool
  | .operation _ => false
  | _ => true

def isFilter : Form → Bool
  | .filtered | .primary => true
  | _ => false

/-- The form with one more step after it. -/
def stepped : Form → Form
  | .location => .location
  | _ => .continued

end Form

def Expr.form : Expr → Form
  | .context | .parent | .step _ | .anywhere _ => .location
  | .literal _ | .number _ | .call _ _ | .group _ | .raw _ => .primary
  | .binary operator _ _ => .operation operator
  | .walk base _ | .descend base _ => base.form.stepped
  | .filter _ _ => .filtered

/-- Only plain names are written as name tests. -/
def NodeTest.fits : NodeTest → Bool
  | .name label => isPlainName label
  | _ => true

mutual

/-- The expression has its parentheses where the grammar needs them, and no fragment of text in it. -/
def Expr.fits : Expr → Bool
  | .context | .parent | .literal _ | .number _ => true
  | .call _ arguments => allFit arguments
  | .binary operator left right =>
      left.fits && right.fits && decide (operator.level.rank ≤ left.form.rank) &&
        decide (operator.level.rank < right.form.rank)
  | .group inner => inner.fits
  | .step step | .anywhere step => step.fits
  | .walk base step | .descend base step => base.fits && base.form.isPath && step.fits
  | .filter base predicate => base.fits && base.form.isFilter && predicate.fits
  | .raw _ => false

def allFit : List Expr → Bool
  | [] => true
  | first :: others => first.fits && allFit others

def Step.fits : Step → Bool
  | ⟨_, test, predicates⟩ => test.fits && allFit predicates

end

/-! ## Readings by form -/

/-- The tokens end in a relative location path that can be replaced by any other. -/
def Extends (phrase : Expr → Phrase) (expression : Expr) (tokens : List Token) : Prop :=
  ∃ make front back, tokens = front ++ back ∧ Derives (.relative make expression) back ∧
    ∀ other others, Derives (.relative make other) others → Derives (phrase other) (front ++ others)

def Form.Shows (expression : Expr) (tokens : List Token) : Form → Prop
  | .operation operator => Derives (.expression operator.level expression) tokens
  | .location => Extends .location expression tokens
  | .continued => Extends (.expression .path) expression tokens
  | .filtered => Derives (.filter expression) tokens
  | .primary => Derives (.primary expression) tokens

variable {form : Form} {expression : Expr} {tokens : List Token}

theorem Extends.derives {phrase : Expr → Phrase} (extension : Extends phrase expression tokens) :
    Derives (phrase expression) tokens := by
  rcases extension with ⟨make, front, back, rfl, reading, replace⟩
  exact replace _ _ reading

theorem Form.Shows.filter (shows : form.Shows expression tokens) (isFilter : form.isFilter = true) :
    Derives (.filter expression) tokens := by
  cases form with
  | filtered => exact shows
  | primary => exact .primary shows
  | operation operator => exact absurd isFilter (by simp [Form.isFilter])
  | location => exact absurd isFilter (by simp [Form.isFilter])
  | continued => exact absurd isFilter (by simp [Form.isFilter])

theorem Form.Shows.path (shows : form.Shows expression tokens) (isPath : form.isPath = true) :
    Derives (.expression .path expression) tokens := by
  cases form with
  | operation operator => exact absurd isPath (by simp [Form.isPath])
  | location => exact .location (Extends.derives shows)
  | continued => exact Extends.derives shows
  | filtered => exact .filter shows
  | primary => exact .filter (.primary shows)

theorem Form.Shows.operand (shows : form.Shows expression tokens) {level : Level}
    (weaker : level.rank ≤ form.rank) : Derives (.expression level expression) tokens := by
  cases form with
  | operation operator => exact Derives.loosen shows weaker
  | location => exact (Form.Shows.path shows rfl).loosen weaker
  | continued => exact (Form.Shows.path shows rfl).loosen weaker
  | filtered => exact (Form.Shows.path shows rfl).loosen weaker
  | primary => exact (Form.Shows.path shows rfl).loosen weaker

theorem Form.Shows.whole (shows : form.Shows expression tokens) :
    Derives (.expression .or expression) tokens :=
  shows.operand (Nat.zero_le _)

theorem Extends.walk {phrase : Expr → Phrase} (extension : Extends phrase expression tokens)
    {step : Step} {after : List Token} (reading : Derives (.step step) after) :
    Extends phrase (.walk expression step) (tokens ++ .slash :: after) := by
  rcases extension with ⟨make, front, back, rfl, base, replace⟩
  exact ⟨make, front, back ++ .slash :: after, by simp, .walk base reading, replace⟩

theorem Extends.descend {phrase : Expr → Phrase} (extension : Extends phrase expression tokens)
    {step : Step} {after : List Token} (reading : Derives (.step step) after) :
    Extends phrase (.descend expression step) (tokens ++ .slashes :: after) := by
  rcases extension with ⟨make, front, back, rfl, base, replace⟩
  exact ⟨make, front, back ++ .slashes :: after, by simp, .descend base reading, replace⟩

theorem Derives.extends_walk (base : Derives (.filter expression) tokens) {step : Step}
    {after : List Token} (reading : Derives (.step step) after) :
    Extends (.expression .path) (.walk expression step) (tokens ++ .slash :: after) := by
  refine ⟨.walk expression, tokens ++ [.slash], after, by simp, .first reading, ?_⟩
  intro other others replaced
  simpa using Derives.filterThen base replaced

theorem Derives.extends_descend (base : Derives (.filter expression) tokens) {step : Step}
    {after : List Token} (reading : Derives (.step step) after) :
    Extends (.expression .path) (.descend expression step) (tokens ++ .slashes :: after) := by
  refine ⟨.descend expression, tokens ++ [.slashes], after, by simp, .first reading, ?_⟩
  intro other others replaced
  simpa using Derives.filterThenBelow base replaced

theorem Form.Shows.walk (shows : form.Shows expression tokens) (isPath : form.isPath = true)
    {step : Step} {after : List Token} (reading : Derives (.step step) after) :
    form.stepped.Shows (.walk expression step) (tokens ++ .slash :: after) := by
  cases form with
  | operation operator => exact absurd isPath (by simp [Form.isPath])
  | location => exact Extends.walk shows reading
  | continued => exact Extends.walk shows reading
  | filtered => exact Derives.extends_walk shows reading
  | primary => exact Derives.extends_walk (.primary shows) reading

theorem Form.Shows.descend (shows : form.Shows expression tokens) (isPath : form.isPath = true)
    {step : Step} {after : List Token} (reading : Derives (.step step) after) :
    form.stepped.Shows (.descend expression step) (tokens ++ .slashes :: after) := by
  cases form with
  | operation operator => exact absurd isPath (by simp [Form.isPath])
  | location => exact Extends.descend shows reading
  | continued => exact Extends.descend shows reading
  | filtered => exact Derives.extends_descend shows reading
  | primary => exact Derives.extends_descend (.primary shows) reading

theorem Operator.exists_tighter (operator : Operator) :
    ∃ inner, operator.level.tighter = some inner ∧ inner.rank = operator.level.rank + 1 :=
  Level.exists_tighter (by cases operator <;> decide)

/-! ## Printing and reading -/

theorem NodeTest.renders {test : NodeTest} (fits : test.fits = true) :
    Renders test.print.toList test.tokens := by
  cases test with
  | name label => exact renders_name (isWord_of_isPlainName fits)
  | principal => exact renders_star
  | text => exact renders_nodeType (.inl rfl)
  | node => exact renders_nodeType (.inr rfl)

theorem NodeTest.avoids {test : NodeTest} (fits : test.fits = true) : Avoids '/' test.print.toList := by
  cases test with
  | name label => exact avoids_of_isWord (isWord_of_isPlainName fits) (by decide)
  | principal => exact ⟨'*', _, rfl, by decide⟩
  | text => exact ⟨'t', _, rfl, by decide⟩
  | node => exact ⟨'n', _, rfl, by decide⟩

theorem trails_printAfter (operator : Operator) (left : Expr) {text : List Char}
    (next : Renders text tokens) :
    Trails ((operator.printAfter left).toList ++ text) (.operator operator :: tokens) := by
  unfold Operator.printAfter
  split
  · exact trails_tight_union next
  · exact trails_operator operator next

mutual

/-- The text of an expression that fits is cut into tokens which can be read as the spelled expression. -/
theorem Expr.written (expression : Expr) (fits : expression.fits = true) :
    ∃ tokens, Renders expression.print.toList tokens ∧
      expression.form.Shows expression.spelled tokens := by
  match expression with
  | .context => exact ⟨_, renders_dot, .step, [], _, rfl, .context, fun _ _ => .fromContext⟩
  | .parent => exact ⟨_, renders_dots, .step, [], _, rfl, .parent, fun _ _ => .fromContext⟩
  | .literal value => exact renders_literal value
  | .number value => exact ⟨_, renders_number value, .number value⟩
  | .call function [] =>
      have nothing : ∀ rest others, LexesAfter rest others →
          Lexes (some .opening) ([] ++ ')' :: rest) ([] ++ .closing :: others) := by
        intro rest others continued
        exact .token rfl (continued .closing rfl)
      refine ⟨_, ?_, .call .noArgument⟩
      simpa [Expr.print, printAll, join] using renders_call function nothing
  | .call function (argument :: arguments) =>
      obtain ⟨inside, text, reading⟩ := arguments_written (argument :: arguments) fits (by simp)
      refine ⟨_, ?_, .call reading⟩
      simpa [Expr.print] using renders_call function text.inside
  | .binary operator left right =>
      simp only [Expr.fits, Bool.and_eq_true, decide_eq_true_eq] at fits
      obtain ⟨before, leftText, leftShows⟩ := Expr.written left fits.1.1.1
      obtain ⟨after, rightText, rightShows⟩ := Expr.written right fits.1.1.2
      rcases operator.exists_tighter with ⟨inner, next, rank⟩
      have tightEnough : inner.rank ≤ right.form.rank := by omega
      refine ⟨_, ?_, .operation next (leftShows.operand fits.1.2) (rightShows.operand tightEnough)⟩
      simpa [Expr.print] using leftText.append (trails_printAfter operator left rightText)
  | .group inner =>
      obtain ⟨inside, text, shows⟩ := Expr.written inner fits
      refine ⟨_, ?_, .group shows.whole⟩
      simpa [Expr.print] using renders_parentheses text
  | .step step =>
      obtain ⟨tokens, text, -, reading⟩ := Step.written step fits
      exact ⟨tokens, text, .step, [], tokens, rfl, .first reading, fun _ _ => .fromContext⟩
  | .anywhere step =>
      obtain ⟨tokens, text, -, reading⟩ := Step.written step fits
      refine ⟨_, ?_, .anywhere, [.slashes], tokens, rfl, .first reading, fun _ _ => .fromDocument⟩
      simpa [Expr.print] using renders_slashes text
  | .walk base step =>
      simp only [Expr.fits, Bool.and_eq_true] at fits
      obtain ⟨before, baseText, shows⟩ := Expr.written base fits.1.1
      obtain ⟨after, text, single, reading⟩ := Step.written step fits.2
      refine ⟨_, ?_, shows.walk fits.1.2 reading⟩
      simpa [Expr.print] using baseText.append (trails_slash text single)
  | .descend base step =>
      simp only [Expr.fits, Bool.and_eq_true] at fits
      obtain ⟨before, baseText, shows⟩ := Expr.written base fits.1.1
      obtain ⟨after, text, -, reading⟩ := Step.written step fits.2
      refine ⟨_, ?_, shows.descend fits.1.2 reading⟩
      simpa [Expr.print] using baseText.append (trails_slashes text)
  | .filter base predicate =>
      simp only [Expr.fits, Bool.and_eq_true] at fits
      obtain ⟨before, baseText, baseShows⟩ := Expr.written base fits.1.1
      obtain ⟨inside, text, shows⟩ := Expr.written predicate fits.2
      refine ⟨_, ?_, .filtered (baseShows.filter fits.1.2) shows.whole⟩
      simpa [Expr.print] using baseText.append (trails_brackets text)
  | .raw text => exact absurd fits (by simp [Expr.fits])

theorem Step.written (step : Step) (fits : step.fits = true) :
    ∃ tokens, Renders step.print.toList tokens ∧ Avoids '/' step.print.toList ∧
      Derives (.step step.spelled) tokens := by
  match step with
  | ⟨axis, test, predicates⟩ =>
      simp only [Step.fits, Bool.and_eq_true] at fits
      obtain ⟨after, text, reading⟩ := predicates_written predicates fits.2
      have testText := (NodeTest.renders fits.1).append text
      have single := (NodeTest.avoids fits.1).append (printPredicates predicates).toList
      refine ⟨_, ?_, ?_, .step reading⟩
      · simpa [Step.print] using testText.along axis
      · simpa [Step.print] using avoids_axis (by decide) (by decide) axis single

theorem predicates_written (predicates : List Expr) (fits : allFit predicates = true) :
    ∃ tokens, Trails (printPredicates predicates).toList tokens ∧
      Derives (.predicates (spelledAll predicates)) tokens := by
  match predicates with
  | [] => exact ⟨[], .nil, .noPredicate⟩
  | predicate :: predicates =>
      simp only [allFit, Bool.and_eq_true] at fits
      obtain ⟨inside, text, shows⟩ := Expr.written predicate fits.1
      obtain ⟨after, others, reading⟩ := predicates_written predicates fits.2
      refine ⟨_, ?_, .predicate shows.whole reading⟩
      simpa [printPredicates] using (trails_brackets text).append others

theorem arguments_written (arguments : List Expr) (fits : allFit arguments = true)
    (nonempty : arguments ≠ []) :
    ∃ tokens, Renders (join ", " (printAll arguments)).toList tokens ∧
      Derives (.arguments (spelledAll arguments)) tokens := by
  match arguments with
  | [] => exact absurd rfl nonempty
  | [argument] =>
      simp only [allFit, Bool.and_eq_true] at fits
      obtain ⟨tokens, text, shows⟩ := Expr.written argument fits.1
      exact ⟨tokens, text, .lastArgument shows.whole⟩
  | argument :: next :: arguments =>
      simp only [allFit, Bool.and_eq_true] at fits
      obtain ⟨before, text, shows⟩ := Expr.written argument fits.1
      obtain ⟨after, others, reading⟩ :=
        arguments_written (next :: arguments) (by simp [allFit, fits.2]) (by simp)
      refine ⟨_, ?_, .argument shows.whole (by simp [spelledAll]) reading⟩
      simpa [printAll, join] using text.append (trails_comma others)

end

end Locator.XPath
