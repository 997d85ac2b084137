import Locator.Proofs.XPath.Writing

/-!
# The strings and names of an expression

Strings come into an expression in two places only, as the value of a string expression and as a name test.
One lemma for each construct says where parentheses are needed and which strings and names are used.
-/

namespace Locator.XPath

set_option autoImplicit false

/-- What an expression holds of strings: the value of a string expression, or a name test. -/
inductive Leaf where
  | string (value : String)
  | name (label : String)
  deriving DecidableEq

def NodeTest.leaves : NodeTest → List Leaf
  | .name label => [.name label]
  | _ => []

mutual

def Expr.leaves : Expr → List Leaf
  | .context | .parent | .number _ | .raw _ => []
  | .literal value => [.string value]
  | .call _ arguments => allLeaves arguments
  | .binary _ left right => left.leaves ++ right.leaves
  | .group inner => inner.leaves
  | .step step | .anywhere step => step.leaves
  | .walk base step | .descend base step => base.leaves ++ step.leaves
  | .filter base predicate => base.leaves ++ predicate.leaves

def allLeaves : List Expr → List Leaf
  | [] => []
  | first :: others => first.leaves ++ allLeaves others

def Step.leaves : Step → List Leaf
  | ⟨_, test, predicates⟩ => test.leaves ++ allLeaves predicates

end

variable {allowed : List Leaf}

/-- The expression fits, uses only strings and names that are allowed, and can stand as an operand of a
level. -/
structure Expr.Draws (allowed : List Leaf) (level : Level) (expression : Expr) : Prop where
  fits : expression.fits = true
  leaves : expression.leaves ⊆ allowed
  binds : level.rank ≤ expression.form.rank

structure Step.Draws (allowed : List Leaf) (step : Step) : Prop where
  fits : step.fits = true
  leaves : step.leaves ⊆ allowed

theorem Expr.Draws.weaken {level inner : Level} {expression : Expr}
    (draws : expression.Draws allowed inner) (weaker : level.rank ≤ inner.rank) :
    expression.Draws allowed level :=
  ⟨draws.fits, draws.leaves, Nat.le_trans weaker draws.binds⟩

theorem Level.rank_le (level : Level) : level.rank ≤ 8 := by
  cases level <;> decide

theorem Expr.Draws.isPath {expression : Expr} (draws : expression.Draws allowed .path) :
    expression.form.isPath = true := by
  have binds := draws.binds
  cases form : expression.form with
  | operation operator =>
      rw [form] at binds
      cases operator <;> exact absurd binds (by decide)
  | location => rfl
  | continued => rfl
  | filtered => rfl
  | primary => rfl

theorem Form.rank_of_isPath {form : Form} (isPath : form.isPath = true) (level : Level) :
    level.rank ≤ form.rank := by
  cases form with
  | operation operator => exact absurd isPath (by simp [Form.isPath])
  | location => exact level.rank_le
  | continued => exact level.rank_le
  | filtered => exact level.rank_le
  | primary => exact level.rank_le

theorem Form.isPath_stepped (form : Form) : form.stepped.isPath = true := by
  cases form <;> rfl

/-! ## Operands -/

section Operands

variable {level : Level}

theorem draws_context : Expr.context.Draws allowed level :=
  ⟨rfl, List.nil_subset _, Form.rank_of_isPath rfl level⟩

theorem draws_number (value : Nat) : (Expr.number value).Draws allowed level :=
  ⟨rfl, List.nil_subset _, Form.rank_of_isPath rfl level⟩

theorem draws_literal {value : String} (member : .string value ∈ allowed) :
    (Expr.literal value).Draws allowed level :=
  ⟨rfl, by simpa [Expr.leaves] using member, Form.rank_of_isPath rfl level⟩

theorem allFit_iff {expressions : List Expr} :
    allFit expressions = true ↔ ∀ expression ∈ expressions, expression.fits = true := by
  induction expressions with
  | nil => simp [allFit]
  | cons first others ih => simp [allFit, ih]

theorem allLeaves_subset_iff {expressions : List Expr} :
    allLeaves expressions ⊆ allowed ↔ ∀ expression ∈ expressions, expression.leaves ⊆ allowed := by
  induction expressions with
  | nil => simp [allLeaves]
  | cons first others ih => simp [allLeaves, ih]

theorem draws_call (function : Function) {arguments : List Expr}
    (draws : ∀ argument ∈ arguments, argument.Draws allowed .or) :
    (Expr.call function arguments).Draws allowed level where
  fits := allFit_iff.mpr fun argument member => (draws argument member).fits
  leaves := allLeaves_subset_iff.mpr fun argument member => (draws argument member).leaves
  binds := Form.rank_of_isPath rfl level

theorem Expr.Draws.call {argument : Expr} (draws : argument.Draws allowed .or) (function : Function) :
    (Expr.call function [argument]).Draws allowed level := by
  apply draws_call
  intro other member
  exact List.mem_singleton.mp member ▸ draws

theorem Expr.Draws.group {inner : Expr} (draws : inner.Draws allowed .or) :
    (Expr.group inner).Draws allowed level :=
  ⟨draws.fits, draws.leaves, Form.rank_of_isPath rfl level⟩

theorem Step.Draws.expression {step : Step} (draws : step.Draws allowed) :
    (Expr.step step).Draws allowed level :=
  ⟨draws.fits, draws.leaves, Form.rank_of_isPath rfl level⟩

theorem Step.Draws.anywhere {step : Step} (draws : step.Draws allowed) :
    (Expr.anywhere step).Draws allowed level :=
  ⟨draws.fits, draws.leaves, Form.rank_of_isPath rfl level⟩

theorem Expr.Draws.walk {base : Expr} {step : Step} (baseDraws : base.Draws allowed .path)
    (draws : step.Draws allowed) : (Expr.walk base step).Draws allowed level where
  fits := by simp [Expr.fits, baseDraws.fits, baseDraws.isPath, draws.fits]
  leaves := List.append_subset.mpr ⟨baseDraws.leaves, draws.leaves⟩
  binds := Form.rank_of_isPath (Form.isPath_stepped _) level

theorem Expr.Draws.descend {base : Expr} {step : Step} (baseDraws : base.Draws allowed .path)
    (draws : step.Draws allowed) : (Expr.descend base step).Draws allowed level where
  fits := by simp [Expr.fits, baseDraws.fits, baseDraws.isPath, draws.fits]
  leaves := List.append_subset.mpr ⟨baseDraws.leaves, draws.leaves⟩
  binds := Form.rank_of_isPath (Form.isPath_stepped _) level

theorem Expr.Draws.filter {base predicate : Expr} (baseDraws : base.Draws allowed .path)
    (isFilter : base.form.isFilter = true) (draws : predicate.Draws allowed .or) :
    (Expr.filter base predicate).Draws allowed level where
  fits := by simp [Expr.fits, baseDraws.fits, isFilter, draws.fits]
  leaves := List.append_subset.mpr ⟨baseDraws.leaves, draws.leaves⟩
  binds := Form.rank_of_isPath rfl level

/-- An operation whose right operand binds tighter and whose left operand binds at least as tight. -/
theorem Expr.Draws.binary {operator : Operator} {inner : Level} {left right : Expr}
    (atLevel : operator.level = level) (leftDraws : left.Draws allowed level)
    (rightDraws : right.Draws allowed inner) (tighter : level.rank < inner.rank) :
    (Expr.binary operator left right).Draws allowed level where
  fits := by
    subst atLevel
    have binds : operator.level.rank < right.form.rank := Nat.lt_of_lt_of_le tighter rightDraws.binds
    simp [Expr.fits, leftDraws.fits, rightDraws.fits, leftDraws.binds, binds]
  leaves := List.append_subset.mpr ⟨leftDraws.leaves, rightDraws.leaves⟩
  binds := Nat.le_of_eq (congrArg Level.rank atLevel.symm)

end Operands

/-! ## Several conditions -/

theorem draws_foldl {operator : Operator} {level inner : Level} (atLevel : operator.level = level)
    (tighter : level.rank < inner.rank) {first : Expr} {others : List Expr}
    (firstDraws : first.Draws allowed level) (draws : ∀ other ∈ others, other.Draws allowed inner) :
    (others.foldl (.binary operator) first).Draws allowed level := by
  induction others generalizing first with
  | nil => exact firstDraws
  | cons next others ih =>
      have joined := firstDraws.binary atLevel (draws next (by simp)) tighter
      exact ih joined fun other member => draws other (List.mem_cons_of_mem next member)

theorem draws_conjunction {conditions : List Expr}
    (draws : ∀ condition ∈ conditions, condition.Draws allowed .equality) :
    ∀ predicate ∈ Expr.conjunction conditions, predicate.Draws allowed .or := by
  intro predicate member
  cases conditions with
  | nil => simp [Expr.conjunction, Expr.chain] at member
  | cons first others =>
      simp only [Expr.conjunction, Expr.chain, Option.toList_some, List.mem_singleton] at member
      subst member
      have tighter : Level.rank .and < Level.rank .equality := by decide
      have firstDraws := (draws first (by simp)).weaken (Nat.le_of_lt tighter)
      have all := draws_foldl (rfl : Operator.and.level = .and) tighter firstDraws fun other member =>
        draws other (List.mem_cons_of_mem first member)
      exact all.weaken (by decide)

theorem draws_joined (operator : Operator) (tighter : operator.level.rank < Level.rank .equality)
    {empty : Expr} (emptyDraws : empty.Draws allowed .equality) {conditions : List Expr}
    (draws : ∀ condition ∈ conditions, condition.Draws allowed .equality) :
    (Expr.joined operator empty conditions).Draws allowed .equality := by
  match conditions with
  | [] => exact emptyDraws
  | [condition] => exact draws condition (by simp)
  | first :: next :: others =>
      have firstDraws := (draws first (by simp)).weaken (Nat.le_of_lt tighter)
      have all := draws_foldl rfl tighter firstDraws fun other member =>
        draws other (List.mem_cons_of_mem first member)
      exact (all.weaken (Nat.zero_le _)).group

theorem step_draws {axis : Option Axis} {test : NodeTest} (fits : test.fits = true)
    (leaves : test.leaves ⊆ allowed) {predicates : List Expr}
    (draws : ∀ predicate ∈ predicates, predicate.Draws allowed .or) :
    Step.Draws allowed { axis, test, predicates } where
  fits := by
    rw [Step.fits, fits, Bool.true_and]
    exact allFit_iff.mpr fun predicate member => (draws predicate member).fits
  leaves := by
    rw [Step.leaves]
    apply List.append_subset.mpr ⟨leaves, ?_⟩
    exact allLeaves_subset_iff.mpr fun predicate member => (draws predicate member).leaves

theorem Step.Draws.along {step : Step} (draws : step.Draws allowed) (axis : Axis) :
    (step.along axis).Draws allowed := by
  rcases step with ⟨_, test, predicates⟩
  exact ⟨draws.fits, draws.leaves⟩

theorem Expr.Draws.restrict {set : Expr} (draws : set.Draws allowed .path)
    (isFilter : set.form.isFilter = true) {conditions : List Expr}
    (conditionsDraw : ∀ condition ∈ conditions, condition.Draws allowed .equality) :
    (set.restrict conditions).Draws allowed .path ∧ (set.restrict conditions).form.isFilter = true := by
  have predicates := draws_conjunction conditionsDraw
  unfold Expr.restrict
  unfold Expr.conjunction at predicates ⊢
  generalize Expr.chain .and conditions = joined at predicates ⊢
  cases joined with
  | none => exact ⟨draws, isFilter⟩
  | some predicate => exact ⟨draws.filter isFilter (predicates predicate (by simp)), rfl⟩

/-! ## The strings and names of tokens -/

def Token.leaf? : Token → Option Leaf
  | .literal value => some (.string value)
  | .name label => some (.name label)
  | _ => none

/-- What the spelled form of a string or a name holds. -/
def Leaf.spelled : Leaf → List Leaf
  | .string value => (spell value).leaves
  | .name label => [.name label]

mutual

theorem Expr.leaves_spelled (expression : Expr) :
    expression.spelled.leaves = expression.leaves.flatMap Leaf.spelled := by
  match expression with
  | .context => rfl
  | .parent => rfl
  | .literal value => simp [Expr.spelled, Expr.leaves, Leaf.spelled]
  | .number value => rfl
  | .call function arguments => exact allLeaves_spelledAll arguments
  | .binary operator left right =>
      simp only [Expr.spelled, Expr.leaves, List.flatMap_append, Expr.leaves_spelled left,
        Expr.leaves_spelled right]
  | .group inner => exact Expr.leaves_spelled inner
  | .step step => exact Step.leaves_spelled step
  | .anywhere step => exact Step.leaves_spelled step
  | .walk base step =>
      simp only [Expr.spelled, Expr.leaves, List.flatMap_append, Expr.leaves_spelled base,
        Step.leaves_spelled step]
  | .descend base step =>
      simp only [Expr.spelled, Expr.leaves, List.flatMap_append, Expr.leaves_spelled base,
        Step.leaves_spelled step]
  | .filter base predicate =>
      simp only [Expr.spelled, Expr.leaves, List.flatMap_append, Expr.leaves_spelled base,
        Expr.leaves_spelled predicate]
  | .raw text => rfl

theorem allLeaves_spelledAll (expressions : List Expr) :
    allLeaves (spelledAll expressions) = (allLeaves expressions).flatMap Leaf.spelled := by
  match expressions with
  | [] => rfl
  | first :: others =>
      simp only [spelledAll, allLeaves, List.flatMap_append, Expr.leaves_spelled first,
        allLeaves_spelledAll others]

theorem Step.leaves_spelled (step : Step) : step.spelled.leaves = step.leaves.flatMap Leaf.spelled := by
  match step with
  | ⟨axis, test, predicates⟩ =>
      have own : test.leaves = test.leaves.flatMap Leaf.spelled := by
        cases test <;> rfl
      simp only [Step.spelled, Step.leaves, List.flatMap_append, allLeaves_spelledAll predicates, ← own]

end

/-- These are the strings and names of the phrase, in their order. A relative location path also has those
that come with what stands in front of it. -/
def Phrase.Holds (found : List Leaf) : Phrase → Prop
  | .expression _ tree | .location tree | .filter tree | .primary tree => tree.leaves = found
  | .relative make tree =>
      ∀ front, (∀ next, (make next).leaves = front ++ next.leaves) → tree.leaves = front ++ found
  | .step tree => tree.leaves = found
  | .predicates trees | .arguments trees => allLeaves trees = found

theorem axisTokens_leaves (axis : Option Axis) : (axisTokens axis).filterMap Token.leaf? = [] := by
  rcases axis with _ | axis
  · rfl
  · cases axis <;> rfl

theorem NodeTest.tokens_leaves (test : NodeTest) :
    test.tokens.filterMap Token.leaf? = test.leaves := by
  cases test <;> rfl

/-- The tokens hold the same strings and names as what they are read as. -/
theorem Derives.holds {phrase : Phrase} {tokens : List Token} (reading : Derives phrase tokens) :
    phrase.Holds (tokens.filterMap Token.leaf?) := by
  induction reading with
  | tighter _ _ ih => exact ih
  | operation _ _ _ left right =>
      simp only [Phrase.Holds] at left right ⊢
      simp [Expr.leaves, left, right, List.filterMap_cons, Token.leaf?]
  | location _ ih => exact ih
  | filter _ ih => exact ih
  | filterThen _ _ base ih =>
      have whole := ih _ fun _ => rfl
      simp only [Phrase.Holds] at base ⊢
      simp [whole, base, List.filterMap_cons, Token.leaf?]
  | filterThenBelow _ _ base ih =>
      have whole := ih _ fun _ => rfl
      simp only [Phrase.Holds] at base ⊢
      simp [whole, base, List.filterMap_cons, Token.leaf?]
  | fromContext _ ih => exact ih [] fun _ => rfl
  | fromDocument _ ih => exact ih [] fun _ => rfl
  | first _ ih =>
      intro front made
      simp only [Phrase.Holds] at ih
      rw [made, ih]
  | context =>
      intro front made
      have nothing := made { axis := none, test := .node, predicates := [] }
      exact nothing
  | parent =>
      intro front made
      have nothing := made { axis := none, test := .node, predicates := [] }
      exact nothing
  | walk _ _ base ih =>
      intro front made
      have start := base front made
      simp only [Phrase.Holds] at ih
      simp [Expr.leaves, start, ih, List.filterMap_cons, Token.leaf?]
  | descend _ _ base ih =>
      intro front made
      have start := base front made
      simp only [Phrase.Holds] at ih
      simp [Expr.leaves, start, ih, List.filterMap_cons, Token.leaf?]
  | step _ ih =>
      simp only [Phrase.Holds] at ih ⊢
      simp [Step.leaves, ih, axisTokens_leaves, NodeTest.tokens_leaves]
  | noPredicate => rfl
  | predicate _ _ inside after =>
      simp only [Phrase.Holds] at inside after ⊢
      simp [allLeaves, inside, after, List.filterMap_cons, Token.leaf?]
  | primary _ ih => exact ih
  | filtered _ _ base ih =>
      simp only [Phrase.Holds] at base ih ⊢
      simp [Expr.leaves, base, ih, List.filterMap_cons, Token.leaf?]
  | group _ ih =>
      simp only [Phrase.Holds] at ih ⊢
      simp [Expr.leaves, ih, List.filterMap_cons, Token.leaf?]
  | literal value => rfl
  | number value => rfl
  | call _ ih =>
      simp only [Phrase.Holds] at ih ⊢
      simp [Expr.leaves, ih, List.filterMap_cons, Token.leaf?]
  | noArgument => rfl
  | lastArgument _ ih =>
      simp only [Phrase.Holds] at ih ⊢
      simp [allLeaves, ih]
  | argument _ _ _ first others =>
      simp only [Phrase.Holds] at first others ⊢
      simp [allLeaves, first, others, List.filterMap_cons, Token.leaf?]

end Locator.XPath
