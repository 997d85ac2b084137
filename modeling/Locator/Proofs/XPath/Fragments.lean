import Locator.Proofs.XPath.Operands

/-!
# Fragments of text in expressions

An expression that holds fragments of text is printed as an operand when each of its fragments is one. What
the words of the fragments are is not looked at, only that they end with an operand and close their brackets, and
where it matters that they have no `or` outside of these.
-/

namespace Locator.XPath

open Locator.Text

set_option autoImplicit false

/-- The text is an operand on its own: it is cut into words that end with an operand and have their brackets
closed, with none of the barred operators outside of them. So is every expression, but for those that end with
the bare root `/`. -/
def Contained (barred : List String) (text : String) : Prop :=
  ∃ words, Stands barred text.toList words

mutual

/-- The fragments in the expression are contained, and neither they nor the expression have one of the barred
operators outside of brackets. -/
def Expr.Contained (barred : List String) : Expr → Prop
  | .context | .parent | .literal _ | .number _ => True
  | .call _ arguments => AllContained arguments
  | .binary operator left right =>
      operator.sign ∉ barred ∧ left.Contained barred ∧ right.Contained barred
  | .group inner => inner.Contained []
  | .step step | .anywhere step => step.Contained
  | .walk base step | .descend base step => base.Contained barred ∧ step.Contained
  | .filter base predicate => base.Contained barred ∧ predicate.Contained []
  | .raw text => XPath.Contained barred text

def AllContained : List Expr → Prop
  | [] => True
  | first :: others => first.Contained [] ∧ AllContained others

/-- The fragments in the step are contained, and its name test is a plain name. -/
def Step.Contained : Step → Prop
  | ⟨_, test, predicates⟩ => test.fits = true ∧ AllContained predicates

end

theorem allContained_iff (expressions : List Expr) :
    AllContained expressions ↔ ∀ expression ∈ expressions, expression.Contained [] := by
  induction expressions with
  | nil => simp [AllContained]
  | cons first others ih => simp [AllContained, ih]

theorem Contained.fewer {barred barred' : List String} {text : String} (contained : Contained barred text)
    (fewer : barred' ⊆ barred) : Contained barred' text := by
  rcases contained with ⟨words, stands⟩
  exact ⟨words, { stands with paired := stands.paired.fewer fewer }⟩

theorem Expr.Contained.fewer {barred barred' : List String} {expression : Expr}
    (contained : expression.Contained barred) (fewer : barred' ⊆ barred) : expression.Contained barred' := by
  match expression with
  | .context | .parent | .literal _ | .number _ => trivial
  | .call _ _ | .group _ | .step _ | .anywhere _ => exact contained
  | .binary _ left right =>
      exact ⟨fun mem => contained.1 (fewer mem), Expr.Contained.fewer contained.2.1 fewer,
        Expr.Contained.fewer contained.2.2 fewer⟩
  | .walk base _ | .descend base _ | .filter base _ =>
      exact ⟨Expr.Contained.fewer contained.1 fewer, contained.2⟩
  | .raw _ => exact XPath.Contained.fewer contained fewer

/-! ## Printing -/

mutual

theorem Expr.stands (expression : Expr) {barred : List String} (connectives : barred ⊆ ["or", "and"])
    (contained : expression.Contained barred) : ∃ words, Stands barred expression.print.toList words := by
  match expression with
  | .context => exact ⟨_, @stands_operand barred ['.'] "." rfl ⟨'.', _, rfl, by decide⟩⟩
  | .parent => exact ⟨_, @stands_operand barred ['.', '.'] ".." rfl ⟨'.', _, rfl, by decide⟩⟩
  | .literal value => exact stands_literal value
  | .number value => exact ⟨_, stands_number value⟩
  | .call function [] =>
      have named : Stands barred function.name.toList [.operand function.name] :=
        stands_name (isWord_function function)
      exact ⟨_, by simpa [Expr.print, printAll, join] using named.append follows_noArguments⟩
  | .call function (argument :: arguments) =>
      have named : Stands barred function.name.toList [.operand function.name] :=
        stands_name (isWord_function function)
      obtain ⟨words, inside⟩ := arguments_stand (argument :: arguments) contained (by simp)
      exact ⟨_, by simpa [Expr.print] using named.append (follows_parentheses inside)⟩
  | .binary operator left right =>
      obtain ⟨before, leftStands⟩ := Expr.stands left connectives contained.2.1
      obtain ⟨after, rightStands⟩ := Expr.stands right connectives contained.2.2
      have joined := leftStands.append (follows_printAfter operator left rightStands contained.1)
      exact ⟨_, by simpa [Expr.print] using joined⟩
  | .group inner =>
      obtain ⟨words, inside⟩ := Expr.stands inner (List.nil_subset _) contained
      exact ⟨_, by simpa [Expr.print] using stands_parentheses inside⟩
  | .step step =>
      obtain ⟨words, stands, -⟩ := Step.stands step contained barred
      exact ⟨words, stands⟩
  | .anywhere step =>
      obtain ⟨words, stands, -⟩ := Step.stands step contained barred
      have noSlashes : "//" ∉ barred := fun mem => absurd (connectives mem) (by decide)
      exact ⟨_, by simpa [Expr.print] using stands_slashes stands noSlashes⟩
  | .walk base step =>
      obtain ⟨before, baseStands⟩ := Expr.stands base connectives contained.1
      obtain ⟨after, stands, single⟩ := Step.stands step contained.2 barred
      have noSlash : "/" ∉ barred := fun mem => absurd (connectives mem) (by decide)
      exact ⟨_, by simpa [Expr.print] using baseStands.append (follows_slash stands single noSlash)⟩
  | .descend base step =>
      obtain ⟨before, baseStands⟩ := Expr.stands base connectives contained.1
      obtain ⟨after, stands, -⟩ := Step.stands step contained.2 barred
      have noSlashes : "//" ∉ barred := fun mem => absurd (connectives mem) (by decide)
      exact ⟨_, by simpa [Expr.print] using baseStands.append (follows_slashes stands noSlashes)⟩
  | .filter base predicate =>
      obtain ⟨before, baseStands⟩ := Expr.stands base connectives contained.1
      obtain ⟨words, inside⟩ := Expr.stands predicate (List.nil_subset _) contained.2
      exact ⟨_, by simpa [Expr.print] using baseStands.append (follows_brackets inside)⟩
  | .raw text => exact contained

theorem Step.stands (step : Step) (contained : step.Contained) (barred : List String) :
    ∃ words, Stands barred step.print.toList words ∧ Avoids '/' step.print.toList := by
  match step with
  | ⟨axis, test, predicates⟩ =>
      obtain ⟨words, testStands⟩ := @NodeTest.stands barred test contained.1
      obtain ⟨others, follow⟩ := predicates_follow predicates contained.2 barred
      obtain ⟨all, stands⟩ := (testStands.append follow).along axis
      have single := (NodeTest.avoids contained.1).append (printPredicates predicates).toList
      refine ⟨all, ?_, ?_⟩
      · simpa [Step.print] using stands
      · simpa [Step.print] using avoids_axis (by decide) (by decide) axis single

theorem predicates_follow (predicates : List Expr) (contained : AllContained predicates)
    (barred : List String) : ∃ words, Follows barred (printPredicates predicates).toList words := by
  match predicates with
  | [] => exact ⟨[], .nil⟩
  | predicate :: predicates =>
      obtain ⟨words, inside⟩ := Expr.stands predicate (List.nil_subset _) contained.1
      obtain ⟨others, follow⟩ := predicates_follow predicates contained.2 barred
      exact ⟨_, by simpa [printPredicates] using (follows_brackets inside).append follow⟩

theorem arguments_stand (arguments : List Expr) (contained : AllContained arguments)
    (nonempty : arguments ≠ []) : ∃ words, Stands [] (join ", " (printAll arguments)).toList words := by
  match arguments with
  | [] => exact absurd rfl nonempty
  | [argument] => exact Expr.stands argument (List.nil_subset _) contained.1
  | argument :: next :: arguments =>
      obtain ⟨before, stands⟩ := Expr.stands argument (List.nil_subset _) contained.1
      obtain ⟨after, others⟩ := arguments_stand (next :: arguments) contained.2 (by simp)
      exact ⟨_, by simpa [printAll, join] using stands.append (follows_comma others)⟩

end

/-! ## Expressions without fragments -/

theorem Form.isPath_of_isFilter {form : Form} (isFilter : form.isFilter = true) : form.isPath = true := by
  cases form <;> first | rfl | exact absurd isFilter (by simp [Form.isFilter])

theorem Operator.weaker_than_path (operator : Operator) {form : Form} (isPath : form.isPath = true) :
    operator.level.rank < form.rank := by
  have weaker : operator.level.rank < Level.path.rank := by cases operator <;> decide
  cases form <;> first | exact weaker | exact absurd isPath (by simp [Form.isPath])

mutual

/-- Where the grammar needs no parentheses, none of the operators is outside that bind weaker than all that the
expression has. -/
theorem Expr.contained_of_fits (expression : Expr) (fits : expression.fits = true) {barred : List String}
    (weaker : ∀ operator : Operator, operator.sign ∈ barred → operator.level.rank < expression.form.rank) :
    expression.Contained barred := by
  match expression with
  | .context | .parent | .literal _ | .number _ => trivial
  | .call _ arguments => exact allContained_of_fits arguments fits
  | .binary operator left right =>
      simp only [Expr.fits, Bool.and_eq_true, decide_eq_true_eq] at fits
      have own : operator.sign ∉ barred := fun mem => absurd (weaker operator mem) (Nat.lt_irrefl _)
      refine ⟨own, Expr.contained_of_fits left fits.1.1.1 ?_, Expr.contained_of_fits right fits.1.1.2 ?_⟩
      · exact fun other mem => Nat.lt_of_lt_of_le (weaker other mem) fits.1.2
      · exact fun other mem => Nat.lt_trans (weaker other mem) fits.2
  | .group inner => exact Expr.contained_of_fits inner fits (by simp)
  | .step step | .anywhere step => exact Step.contained_of_fits step fits
  | .walk base step | .descend base step =>
      simp only [Expr.fits, Bool.and_eq_true] at fits
      refine ⟨Expr.contained_of_fits base fits.1.1 ?_, Step.contained_of_fits step fits.2⟩
      exact fun operator _ => operator.weaker_than_path fits.1.2
  | .filter base predicate =>
      simp only [Expr.fits, Bool.and_eq_true] at fits
      refine ⟨Expr.contained_of_fits base fits.1.1 ?_, Expr.contained_of_fits predicate fits.2 (by simp)⟩
      exact fun operator _ => operator.weaker_than_path (Form.isPath_of_isFilter fits.1.2)
  | .raw _ => exact absurd fits (by simp [Expr.fits])

theorem allContained_of_fits (expressions : List Expr) (fits : allFit expressions = true) :
    AllContained expressions := by
  match expressions with
  | [] => trivial
  | first :: others =>
      simp only [allFit, Bool.and_eq_true] at fits
      exact ⟨Expr.contained_of_fits first fits.1 (by simp), allContained_of_fits others fits.2⟩

theorem Step.contained_of_fits (step : Step) (fits : step.fits = true) : step.Contained := by
  match step with
  | ⟨_, test, predicates⟩ =>
      simp only [Step.fits, Bool.and_eq_true] at fits
      exact ⟨fits.1, allContained_of_fits predicates fits.2⟩

end

/-! ## When texts hold -/

section Holds

variable {atom : List Word → Prop}

/-- The text holds as an expression when operands do as `atom` tells. -/
def HoldsText (atom : List Word → Prop) (text : String) : Prop :=
  ∃ words, Cuts none text.toList words ∧ Holds atom words

theorem Stands.holdsText {barred : List String} {text : String} {words : List Word}
    (stands : Stands barred text.toList words) : HoldsText atom text ↔ Holds atom words := by
  constructor
  · rintro ⟨others, cuts, holds⟩
    exact stands.cuts.unique cuts ▸ holds
  · intro holds
    exact ⟨words, stands.cuts, holds⟩

theorem holdsText_group {inner : Expr} (contained : inner.Contained []) :
    HoldsText atom (Expr.group inner).print ↔ HoldsText atom inner.print := by
  obtain ⟨words, inside⟩ := inner.stands (List.nil_subset _) contained
  have group : Stands [] (Expr.group inner).print.toList (.opening :: (words ++ [.closing])) := by
    simpa [Expr.print] using @stands_parentheses [] _ _ inside
  rw [group.holdsText, inside.holdsText, holds_group inside.paired]

/-- What is joined by `or` holds when one of both does. -/
theorem holdsText_or {left right : Expr} (leftContained : left.Contained [])
    (rightContained : right.Contained []) :
    HoldsText atom (Expr.binary .or left right).print ↔
      HoldsText atom left.print ∨ HoldsText atom right.print := by
  obtain ⟨before, leftStands⟩ := left.stands (List.nil_subset _) leftContained
  obtain ⟨after, rightStands⟩ := right.stands (List.nil_subset _) rightContained
  have joined : Stands [] (Expr.binary .or left right).print.toList (before ++ .operator "or" :: after) := by
    simpa [Expr.print, Operator.sign] using leftStands.append (follows_printAfter .or left rightStands (by simp))
  rw [joined.holdsText, leftStands.holdsText, rightStands.holdsText, holds_or leftStands.paired]

/-- What is joined by `and` holds when both do, unless one of them has an `or` outside of brackets. -/
theorem holdsText_and {left right : Expr} (leftContained : left.Contained ["or"])
    (rightContained : right.Contained ["or"]) :
    HoldsText atom (Expr.binary .and left right).print ↔
      HoldsText atom left.print ∧ HoldsText atom right.print := by
  have connectives : ["or"] ⊆ ["or", "and"] := by simp
  obtain ⟨before, leftStands⟩ := left.stands connectives leftContained
  obtain ⟨after, rightStands⟩ := right.stands connectives rightContained
  have joined : Stands ["or"] (Expr.binary .and left right).print.toList
      (before ++ .operator "and" :: after) := by
    simpa [Expr.print, Operator.sign] using
      leftStands.append (follows_printAfter .and left rightStands (by decide))
  rw [joined.holdsText, leftStands.holdsText, rightStands.holdsText,
    holds_and leftStands.paired rightStands.paired]

end Holds

/-! ## Several conditions -/

theorem contained_foldl {operator : Operator} {barred : List String} (allowed : operator.sign ∉ barred)
    {first : Expr} {others : List Expr} (firstContained : first.Contained barred)
    (contained : ∀ other ∈ others, other.Contained barred) :
    (others.foldl (.binary operator) first).Contained barred := by
  induction others generalizing first with
  | nil => exact firstContained
  | cons next others ih =>
      have joined : (Expr.binary operator first next).Contained barred :=
        ⟨allowed, firstContained, contained next (by simp)⟩
      exact ih joined fun other member => contained other (List.mem_cons_of_mem next member)

theorem contained_conjunction {conditions : List Expr}
    (contained : ∀ condition ∈ conditions, condition.Contained []) :
    AllContained (Expr.conjunction conditions) := by
  rw [allContained_iff]
  intro predicate member
  cases conditions with
  | nil => simp [Expr.conjunction, Expr.chain] at member
  | cons first others =>
      simp only [Expr.conjunction, Expr.chain, Option.toList_some, List.mem_singleton] at member
      subst member
      exact contained_foldl (by simp) (contained first (by simp)) fun other later =>
        contained other (List.mem_cons_of_mem first later)

theorem holdsText_foldl_and {atom : List Word → Prop} {first : Expr} {others : List Expr}
    (firstContained : first.Contained ["or"]) (contained : ∀ other ∈ others, other.Contained ["or"]) :
    HoldsText atom (others.foldl (.binary .and) first).print ↔
      HoldsText atom first.print ∧ ∀ other ∈ others, HoldsText atom other.print := by
  induction others generalizing first with
  | nil => simp
  | cons next others ih =>
      have nextContained := contained next (by simp)
      have joined : (Expr.binary .and first next).Contained ["or"] := ⟨by decide, firstContained, nextContained⟩
      have later : ∀ other ∈ others, other.Contained ["or"] := fun other member =>
        contained other (List.mem_cons_of_mem next member)
      rw [List.foldl_cons, ih joined later, holdsText_and firstContained nextContained, and_assoc,
        List.forall_mem_cons]

/-- The predicate block holds; without conditions there is none. -/
def BlockHolds (atom : List Word → Prop) (conditions : List Expr) : Prop :=
  ∀ predicate ∈ Expr.conjunction conditions, HoldsText atom predicate.print

theorem blockHolds_singleton {atom : List Word → Prop} {condition : Expr} :
    BlockHolds atom [condition] ↔ HoldsText atom condition.print := by
  simp [BlockHolds, Expr.conjunction, Expr.chain]

/-- A predicate block holds when all its conditions do. -/
theorem blockHolds_iff {atom : List Word → Prop} {conditions : List Expr}
    (contained : 1 < conditions.length → ∀ condition ∈ conditions, condition.Contained ["or"]) :
    BlockHolds atom conditions ↔ ∀ condition ∈ conditions, HoldsText atom condition.print := by
  match conditions with
  | [] => simp [BlockHolds, Expr.conjunction, Expr.chain]
  | [condition] => simp [blockHolds_singleton]
  | first :: next :: others =>
      obtain ⟨firstContained, contained⟩ := List.forall_mem_cons.mp (contained (by simp))
      rw [List.forall_mem_cons, ← holdsText_foldl_and firstContained contained]
      simp [BlockHolds, Expr.conjunction, Expr.chain]

end Locator.XPath
