import Locator.Proofs.XPath.Evaluation

/-!
# Conditions, steps and sets

Three ways in which an expression stands for a condition on elements and text nodes: as a predicate, as a
step that may be put after any axis, and as a set. Each construct of the language has one lemma for the
condition that it stands for; after that nobody looks at how expressions are evaluated.
-/

namespace Locator.XPath

set_option autoImplicit false

variable {document : Document}

/-- At every element and text node the expression has a value that is no number, and it counts as true
just where the condition holds. -/
def Expr.Means (document : Document) (expression : Expr) (condition : Address → Bool) : Prop :=
  ∀ address ∈ document.addresses, ∀ position size, ∃ value,
    expression.eval document ⟨.node address, position, size⟩ = some value ∧
      value.isNumber = false ∧ value.holds = condition address

/-- The same for several expressions that have to hold together. -/
def AllMean (document : Document) (expressions : List Expr) (condition : Address → Bool) : Prop :=
  ∀ address ∈ document.addresses, ∀ position size, ∃ values,
    evalAll document expressions ⟨.node address, position, size⟩ = some values ∧
      (∀ value ∈ values, value.isNumber = false) ∧ values.all Value.holds = condition address

/-- Along every axis but the attributes the step leads to the elements and text nodes of the axis that
satisfy the condition. -/
structure Step.Keeps (document : Document) (step : Step) (condition : Address → Bool) : Prop where
  unwritten : step.axis = none
  outside : condition [] = false
  along : ∀ axis, axis ≠ .attributes → ∀ start,
    (step.along axis).reach document start =
      some ((document.along axis start).filter (Site.lift condition))

/-- Wherever it is evaluated, the expression selects the elements and text nodes that satisfy the
condition. -/
structure Expr.Selects (document : Document) (expression : Expr) (condition : Address → Bool) :
    Prop where
  outside : condition [] = false
  eval : ∀ context, expression.eval document context =
    some (.sites (document.sites.filter (Site.lift condition)))

/-! ## Predicates -/

theorem Expr.Means.congr {expression : Expr} {condition condition' : Address → Bool}
    (means : expression.Means document condition)
    (same : ∀ address ∈ document.addresses, condition address = condition' address) :
    expression.Means document condition' := by
  intro address member position size
  obtain ⟨value, evaluated, noNumber, holds⟩ := means address member position size
  exact ⟨value, evaluated, noNumber, holds.trans (same address member)⟩

theorem Expr.means_of_truth {expression : Expr} {condition : Address → Bool}
    (evaluated : ∀ address ∈ document.addresses, ∀ position size,
      expression.eval document ⟨.node address, position, size⟩ =
        some (.truth (condition address))) :
    expression.Means document condition := by
  intro address member position size
  exact ⟨_, evaluated address member position size, rfl, rfl⟩

theorem Expr.means_of_sites {expression : Expr} {condition : Address → Bool}
    (evaluated : ∀ address ∈ document.addresses, ∀ position size, ∃ found,
      expression.eval document ⟨.node address, position, size⟩ = some (.sites found) ∧
        (!found.isEmpty) = condition address) :
    expression.Means document condition := by
  intro address member position size
  obtain ⟨found, evaluated, holds⟩ := evaluated address member position size
  exact ⟨_, evaluated, rfl, holds⟩

theorem Expr.Means.group {inner : Expr} {condition : Address → Bool}
    (means : inner.Means document condition) : (Expr.group inner).Means document condition := by
  intro address member position size
  simpa [Expr.eval] using means address member position size

theorem Expr.Means.negate {inner : Expr} {condition : Address → Bool}
    (means : inner.Means document condition) :
    inner.negate.Means document fun address => !condition address := by
  apply means_of_truth
  intro address member position size
  obtain ⟨value, evaluated, -, holds⟩ := means address member position size
  simp [Expr.negate, Expr.eval, evalAll, evaluated, applyFunction, holds]

theorem Expr.Means.and {left right : Expr} {first second : Address → Bool}
    (leftMeans : left.Means document first) (rightMeans : right.Means document second) :
    (Expr.binary .and left right).Means document fun address => first address && second address := by
  apply means_of_truth
  intro address member position size
  obtain ⟨value, evaluated, -, holds⟩ := leftMeans address member position size
  obtain ⟨value', evaluated', -, holds'⟩ := rightMeans address member position size
  simp [Expr.eval, evaluated, evaluated', applyOperator, holds, holds']

theorem Expr.Means.or {left right : Expr} {first second : Address → Bool}
    (leftMeans : left.Means document first) (rightMeans : right.Means document second) :
    (Expr.binary .or left right).Means document fun address => first address || second address := by
  apply means_of_truth
  intro address member position size
  obtain ⟨value, evaluated, -, holds⟩ := leftMeans address member position size
  obtain ⟨value', evaluated', -, holds'⟩ := rightMeans address member position size
  simp [Expr.eval, evaluated, evaluated', applyOperator, holds, holds']

/-! ## Several predicates at once -/

theorem evalAll_append (first second : List Expr) (context : Context) :
    evalAll document (first ++ second) context =
      (evalAll document first context).bind fun values =>
        (evalAll document second context).map (values ++ ·) := by
  induction first with
  | nil => cases rest : evalAll document second context <;> simp [evalAll, rest]
  | cons expression first ih =>
      simp only [List.cons_append, evalAll, ih]
      cases expression.eval document context with
      | none => rfl
      | some value =>
          cases evalAll document first context with
          | none => rfl
          | some values => cases evalAll document second context <;> rfl

theorem evalAll_cons {context : Context} {first : Expr} {others : List Expr} {value : Value}
    {values : List Value} (evaluated : first.eval document context = some value)
    (evaluatedOthers : evalAll document others context = some values) :
    evalAll document (first :: others) context = some (value :: values) := by
  simp only [evalAll, evaluated, evaluatedOthers]
  rfl

theorem evalAll_cons_eq_some {context : Context} {first : Expr} {others : List Expr} {values : List Value}
    (evaluated : evalAll document (first :: others) context = some values) :
    ∃ value rest, first.eval document context = some value ∧
      evalAll document others context = some rest ∧ values = value :: rest := by
  simp only [evalAll, Option.bind_eq_bind, Option.bind_eq_some_iff] at evaluated
  rcases evaluated with ⟨value, evaluatedFirst, rest, evaluatedRest, same⟩
  cases same
  exact ⟨value, rest, evaluatedFirst, evaluatedRest, rfl⟩

theorem allMean_nil : AllMean document [] fun _ => true := by
  intro address member position size
  exact ⟨[], rfl, by simp, rfl⟩

theorem allMean_singleton {expression : Expr} {condition : Address → Bool}
    (means : expression.Means document condition) : AllMean document [expression] condition := by
  intro address member position size
  obtain ⟨value, evaluated, noNumber, holds⟩ := means address member position size
  exact ⟨[value], by simp [evalAll, evaluated], by simpa using noNumber, by simpa using holds⟩

theorem AllMean.append {first second : List Expr} {condition condition' : Address → Bool}
    (left : AllMean document first condition) (right : AllMean document second condition') :
    AllMean document (first ++ second) fun address => condition address && condition' address := by
  intro address member position size
  obtain ⟨values, evaluated, noNumbers, holds⟩ := left address member position size
  obtain ⟨values', evaluated', noNumbers', holds'⟩ := right address member position size
  refine ⟨values ++ values', ?_, ?_, ?_⟩
  · simp [evalAll_append, evaluated, evaluated']
  · intro value found
    rcases List.mem_append.mp found with early | late
    · exact noNumbers value early
    · exact noNumbers' value late
  · simp [List.all_append, holds, holds']

theorem Expr.Means.allMean_cons {expression : Expr} {others : List Expr} {condition condition' : Address → Bool}
    (means : expression.Means document condition) (rest : AllMean document others condition') :
    AllMean document (expression :: others) fun address => condition address && condition' address :=
  (allMean_singleton means).append rest

/-- The value of operands joined from left to right by an operator that yields truth values. -/
theorem eval_foldl_binary {operator : Operator} {combine : Bool → Bool → Bool}
    (truth : ∀ left right,
      applyOperator document operator left right = some (.truth (combine left.holds right.holds)))
    {context : Context} {first : Expr} {value : Value} (others : List Expr) (values : List Value)
    (evaluated : first.eval document context = some value) (noNumber : value.isNumber = false)
    (evaluatedOthers : evalAll document others context = some values) :
    ∃ result, (others.foldl (.binary operator) first).eval document context = some result ∧
      result.isNumber = false ∧
        result.holds = (values.map Value.holds).foldl combine value.holds := by
  induction others generalizing first value values with
  | nil =>
      simp only [evalAll, Option.some.injEq] at evaluatedOthers
      subst evaluatedOthers
      exact ⟨value, evaluated, noNumber, rfl⟩
  | cons next others ih =>
      obtain ⟨nextValue, rest, evaluatedNext, evaluatedRest, same⟩ := evalAll_cons_eq_some evaluatedOthers
      have joined : (Expr.binary operator first next).eval document context =
          some (.truth (combine value.holds nextValue.holds)) := by
        simp [Expr.eval, evaluated, evaluatedNext, truth]
      obtain ⟨result, evaluatedAll, resultNoNumber, holds⟩ := ih rest joined rfl evaluatedRest
      refine ⟨result, evaluatedAll, resultNoNumber, ?_⟩
      cases same
      exact holds

theorem and_apply (left right : Value) :
    applyOperator document .and left right = some (.truth (left.holds && right.holds)) := rfl

theorem or_apply (left right : Value) :
    applyOperator document .or left right = some (.truth (left.holds || right.holds)) := rfl

theorem foldl_and_eq (values : List Bool) (start : Bool) :
    values.foldl (· && ·) start = (start && values.all id) := by
  induction values generalizing start with
  | nil => simp
  | cons value values ih => simp [ih, Bool.and_assoc]

theorem foldl_or_eq (values : List Bool) (start : Bool) :
    values.foldl (· || ·) start = (start || values.any id) := by
  induction values generalizing start with
  | nil => simp
  | cons value values ih => simp [ih, Bool.or_assoc]

/-- Conditions joined by `and` hold together. -/
theorem AllMean.foldl_and {first : Expr} {others : List Expr} {condition : Address → Bool}
    (means : AllMean document (first :: others) condition) :
    (others.foldl (.binary .and) first).Means document condition := by
  intro address member position size
  obtain ⟨values, evaluated, noNumbers, holds⟩ := means address member position size
  obtain ⟨value, rest, evaluatedFirst, evaluatedRest, rfl⟩ := evalAll_cons_eq_some evaluated
  obtain ⟨result, evaluatedAll, noNumber, joined⟩ :=
    eval_foldl_binary and_apply others rest evaluatedFirst (noNumbers value (by simp)) evaluatedRest
  refine ⟨result, evaluatedAll, noNumber, ?_⟩
  rw [joined, foldl_and_eq, ← holds]
  simp [List.all_map]

section Truths

variable {operator : Operator} {combine : Bool → Bool → Bool} {context : Context} {truths : List Bool}

theorem eval_foldl_truths
    (apply : ∀ left right : Value,
      applyOperator document operator left right = some (.truth (combine left.holds right.holds)))
    {first : Expr} {truth : Bool} {others : List Expr}
    (evaluated : first.eval document context = some (.truth truth))
    (evaluatedOthers : evalAll document others context = some (truths.map .truth)) :
    (others.foldl (.binary operator) first).eval document context =
      some (.truth (truths.foldl combine truth)) := by
  induction others generalizing first truth truths with
  | nil =>
      cases truths with
      | nil => simpa using evaluated
      | cons => simp [evalAll] at evaluatedOthers
  | cons next others ih =>
      obtain ⟨value, rest, evaluatedNext, evaluatedRest, same⟩ := evalAll_cons_eq_some evaluatedOthers
      cases truths with
      | nil => simp at same
      | cons truth' truths =>
          simp only [List.map_cons, List.cons.injEq] at same
          rcases same with ⟨rfl, rfl⟩
          have both : (Expr.binary operator first next).eval document context =
              some (.truth (combine truth truth')) := by
            simp [Expr.eval, evaluated, evaluatedNext, apply, Value.holds]
          rw [List.foldl_cons, List.foldl_cons, ih both evaluatedRest]

/-- Conditions that are truth values, joined as one operand. -/
theorem eval_joined
    (apply : ∀ left right : Value,
      applyOperator document operator left right = some (.truth (combine left.holds right.holds)))
    {empty : Expr} {unit : Bool} (evaluatedEmpty : empty.eval document context = some (.truth unit))
    (neutral : ∀ truth, combine unit truth = truth) {conditions : List Expr}
    (evaluated : evalAll document conditions context = some (truths.map .truth)) :
    (Expr.joined operator empty conditions).eval document context =
      some (.truth (truths.foldl combine unit)) := by
  match conditions with
  | [] =>
      cases truths with
      | nil => exact evaluatedEmpty
      | cons => simp [evalAll] at evaluated
  | first :: others =>
      obtain ⟨value, rest, evaluatedFirst, evaluatedRest, same⟩ := evalAll_cons_eq_some evaluated
      cases truths with
      | nil => simp at same
      | cons truth truths =>
          simp only [List.map_cons, List.cons.injEq] at same
          rcases same with ⟨rfl, rfl⟩
          have joined := eval_foldl_truths apply evaluatedFirst evaluatedRest
          rw [List.foldl_cons, neutral]
          cases others with
          | nil => exact joined
          | cons next others => exact joined

theorem eval_joined_and {conditions : List Expr}
    (evaluated : evalAll document conditions context = some (truths.map .truth)) :
    (Expr.joined .and (.call .true []) conditions).eval document context =
      some (.truth (truths.all id)) := by
  rw [eval_joined and_apply rfl Bool.true_and evaluated, foldl_and_eq, Bool.true_and]

theorem eval_joined_or {conditions : List Expr}
    (evaluated : evalAll document conditions context = some (truths.map .truth)) :
    (Expr.joined .or (.call .false []) conditions).eval document context =
      some (.truth (truths.any id)) := by
  rw [eval_joined or_apply rfl Bool.false_or evaluated, foldl_or_eq, Bool.false_or]

end Truths

/-- Conditions joined by `and` as one operand; without conditions the operand is true. -/
theorem AllMean.joined {expressions : List Expr} {condition : Address → Bool}
    (means : AllMean document expressions condition) :
    (Expr.joined .and (.call .true []) expressions).Means document condition := by
  match expressions with
  | [] =>
      apply Expr.means_of_truth
      intro address member position size
      obtain ⟨values, evaluated, -, holds⟩ := means address member position size
      cases evaluated
      simp [Expr.joined, Expr.eval, evalAll, applyFunction, ← holds]
  | [single] => simpa [Expr.joined] using means.foldl_and
  | first :: second :: others => exact means.foldl_and.group

theorem allMean_map {Item : Type} (items : List Item) (expression : Item → Expr)
    (condition : Item → Address → Bool)
    (means : ∀ item, (expression item).Means document (condition item)) :
    AllMean document (items.map expression) fun address =>
      items.all fun item => condition item address := by
  induction items with
  | nil => exact allMean_nil
  | cons item items ih => exact (means item).allMean_cons ih

/-- Conditions joined by `or` as one operand; without conditions the operand is false. -/
theorem means_joined_or {Item : Type} (items : List Item) (expression : Item → Expr)
    (condition : Item → Address → Bool)
    (means : ∀ item, (expression item).Means document (condition item)) :
    (Expr.joined .or (.call .false []) (items.map expression)).Means document fun address =>
      items.any fun item => condition item address := by
  have values (items : List Item) (address : Address) (member : address ∈ document.addresses)
      (position size : Nat) : ∃ values,
      evalAll document (items.map expression) ⟨.node address, position, size⟩ = some values ∧
        values.map Value.holds = items.map (condition · address) := by
    induction items with
    | nil => exact ⟨[], rfl, rfl⟩
    | cons item items ih =>
        rcases ih with ⟨values, evaluated, holds⟩
        obtain ⟨value, evaluatedFirst, -, holdsFirst⟩ := means item address member position size
        exact ⟨value :: values, by simp [evalAll, evaluatedFirst, evaluated],
          by simp [holdsFirst, holds]⟩
  match items with
  | [] =>
      apply Expr.means_of_truth
      intro address member position size
      simp [Expr.joined, Expr.eval, evalAll, applyFunction]
  | [item] => simpa [Expr.joined] using means item
  | item :: next :: items =>
      refine Expr.Means.group ?_
      intro address member position size
      obtain ⟨value, evaluatedFirst, noNumber, holdsFirst⟩ := means item address member position size
      obtain ⟨rest, evaluatedRest, holdsRest⟩ := values (next :: items) address member position size
      obtain ⟨result, evaluatedAll, resultNoNumber, joined⟩ :=
        eval_foldl_binary or_apply _ rest evaluatedFirst noNumber evaluatedRest
      refine ⟨result, evaluatedAll, resultNoNumber, ?_⟩
      rw [joined, foldl_or_eq, holdsRest, holdsFirst]
      simp

end Locator.XPath
