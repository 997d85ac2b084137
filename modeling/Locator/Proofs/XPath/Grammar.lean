import Locator.Proofs.XPath.Tokens

/-!
# Grammar

The productions of XPath 1.0 for expressions, each with the tree that it makes. The numbers are those of the
recommendation. Left out are the productions for the tokens that are left out.
-/

namespace Locator.XPath

set_option autoImplicit false

/-- The levels of the operators, from the one that binds weakest. -/
inductive Level where
  | or
  | and
  | equality
  | relational
  | additive
  | multiplicative
  | unary
  | union
  | path
  deriving DecidableEq

namespace Level

def rank : Level → Nat
  | .or => 0
  | .and => 1
  | .equality => 2
  | .relational => 3
  | .additive => 4
  | .multiplicative => 5
  | .unary => 6
  | .union => 7
  | .path => 8

/-- The next level, which binds tighter. -/
def tighter : Level → Option Level
  | .or => some .and
  | .and => some .equality
  | .equality => some .relational
  | .relational => some .additive
  | .additive => some .multiplicative
  | .multiplicative => some .unary
  | .unary => some .union
  | .union => some .path
  | .path => none

end Level

def Operator.level : Operator → Level
  | .or => .or
  | .and => .and
  | .equal => .equality
  | .atLeast | .atMost | .greater => .relational
  | .plus | .minus => .additive
  | .union => .union

/-- What tokens can be read as. A relative location path is read together with what its first step makes,
which depends on what stands in front of it. -/
inductive Phrase where
  | expression (level : Level) (expression : Expr)
  | location (expression : Expr)
  | relative (make : Step → Expr) (expression : Expr)
  | step (step : Step)
  | predicates (predicates : List Expr)
  | filter (expression : Expr)
  | primary (expression : Expr)
  | arguments (arguments : List Expr)

def axisTokens : Option Axis → List Token
  | none => []
  | some .attributes => [.at]
  | some axis => [.axis axis, .colons]

def NodeTest.tokens : NodeTest → List Token
  | .name label => [.name label]
  | .principal => [.star]
  | test => [.nodeType test, .opening, .closing]

/-- The tokens can be read as the phrase. -/
inductive Derives : Phrase → List Token → Prop where
  -- Operators: [18], [21] to [27].
  | tighter {level inner : Level} {expression : Expr} {tokens : List Token}
      (next : level.tighter = some inner) (reading : Derives (.expression inner expression) tokens) :
      Derives (.expression level expression) tokens
  | operation {operator : Operator} {inner : Level} {left right : Expr} {before after : List Token}
      (next : operator.level.tighter = some inner)
      (leftReading : Derives (.expression operator.level left) before)
      (rightReading : Derives (.expression inner right) after) :
      Derives (.expression operator.level (.binary operator left right))
        (before ++ .operator operator :: after)
  -- Path expressions: [19].
  | location {expression : Expr} {tokens : List Token} (reading : Derives (.location expression) tokens) :
      Derives (.expression .path expression) tokens
  | filter {expression : Expr} {tokens : List Token} (reading : Derives (.filter expression) tokens) :
      Derives (.expression .path expression) tokens
  | filterThen {base expression : Expr} {before after : List Token}
      (baseReading : Derives (.filter base) before)
      (reading : Derives (.relative (.walk base) expression) after) :
      Derives (.expression .path expression) (before ++ .slash :: after)
  | filterThenBelow {base expression : Expr} {before after : List Token}
      (baseReading : Derives (.filter base) before)
      (reading : Derives (.relative (.descend base) expression) after) :
      Derives (.expression .path expression) (before ++ .slashes :: after)
  -- Location paths: [1], [2] and [10].
  | fromContext {expression : Expr} {tokens : List Token}
      (reading : Derives (.relative .step expression) tokens) : Derives (.location expression) tokens
  | fromDocument {expression : Expr} {tokens : List Token}
      (reading : Derives (.relative .anywhere expression) tokens) :
      Derives (.location expression) (.slashes :: tokens)
  -- Relative location paths: [3], [11] and [12].
  | first {make : Step → Expr} {step : Step} {tokens : List Token}
      (reading : Derives (.step step) tokens) : Derives (.relative make (make step)) tokens
  | context : Derives (.relative .step .context) [.dot]
  | parent : Derives (.relative .step .parent) [.dots]
  | walk {make : Step → Expr} {base : Expr} {step : Step} {before after : List Token}
      (baseReading : Derives (.relative make base) before) (reading : Derives (.step step) after) :
      Derives (.relative make (.walk base step)) (before ++ .slash :: after)
  | descend {make : Step → Expr} {base : Expr} {step : Step} {before after : List Token}
      (baseReading : Derives (.relative make base) before) (reading : Derives (.step step) after) :
      Derives (.relative make (.descend base step)) (before ++ .slashes :: after)
  -- Steps and predicates: [4] to [9] and [13].
  | step {axis : Option Axis} {test : NodeTest} {predicates : List Expr} {tokens : List Token}
      (reading : Derives (.predicates predicates) tokens) :
      Derives (.step { axis, test, predicates }) (axisTokens axis ++ (test.tokens ++ tokens))
  | noPredicate : Derives (.predicates []) []
  | predicate {predicate : Expr} {predicates : List Expr} {inside after : List Token}
      (reading : Derives (.expression .or predicate) inside)
      (others : Derives (.predicates predicates) after) :
      Derives (.predicates (predicate :: predicates))
        (.openingBracket :: (inside ++ .closingBracket :: after))
  -- Filter expressions: [20].
  | primary {expression : Expr} {tokens : List Token} (reading : Derives (.primary expression) tokens) :
      Derives (.filter expression) tokens
  | filtered {base predicate : Expr} {before inside : List Token}
      (baseReading : Derives (.filter base) before)
      (reading : Derives (.expression .or predicate) inside) :
      Derives (.filter (.filter base predicate))
        (before ++ .openingBracket :: (inside ++ [.closingBracket]))
  -- Primary expressions: [14] to [17].
  | group {inner : Expr} {inside : List Token} (reading : Derives (.expression .or inner) inside) :
      Derives (.primary (.group inner)) (.opening :: (inside ++ [.closing]))
  | literal (value : String) : Derives (.primary (.literal value)) [.literal value]
  | number (value : Nat) : Derives (.primary (.number value)) [.number value]
  | call {function : Function} {arguments : List Expr} {inside : List Token}
      (reading : Derives (.arguments arguments) inside) :
      Derives (.primary (.call function arguments))
        (.function function :: .opening :: (inside ++ [.closing]))
  | noArgument : Derives (.arguments []) []
  | lastArgument {argument : Expr} {tokens : List Token}
      (reading : Derives (.expression .or argument) tokens) : Derives (.arguments [argument]) tokens
  | argument {argument : Expr} {arguments : List Expr} {before after : List Token}
      (reading : Derives (.expression .or argument) before) (more : arguments ≠ [])
      (others : Derives (.arguments arguments) after) :
      Derives (.arguments (argument :: arguments)) (before ++ .comma :: after)

theorem Level.exists_tighter {level : Level} (notPath : level ≠ .path) :
    ∃ inner, level.tighter = some inner ∧ inner.rank = level.rank + 1 := by
  cases level <;> first | exact absurd rfl notPath | exact ⟨_, rfl, rfl⟩

theorem Level.eq_of_rank_eq {level inner : Level} (same : level.rank = inner.rank) : level = inner := by
  cases level <;> cases inner <;> first | rfl | exact absurd same (by decide)

/-- What binds tighter can stand where something that binds weaker is allowed. -/
theorem Derives.loosen {level inner : Level} {expression : Expr} {tokens : List Token}
    (reading : Derives (.expression inner expression) tokens) (weaker : level.rank ≤ inner.rank) :
    Derives (.expression level expression) tokens := by
  induction distance : inner.rank - level.rank generalizing level with
  | zero =>
      have same : level = inner := Level.eq_of_rank_eq (by omega)
      exact same ▸ reading
  | succ distance ih =>
      have notPath : level ≠ .path := by
        intro agree
        subst agree
        have bound : inner.rank ≤ 8 := by cases inner <;> decide
        simp only [Level.rank] at distance bound
        omega
      obtain ⟨between, next, rank⟩ := Level.exists_tighter notPath
      exact .tighter next (ih (by omega) (by omega))

/-! ## Brackets -/

/-- Every bracket is closed by one of its own kind. -/
inductive Balanced : List Token → Prop where
  | nil : Balanced []
  | plain {token : Token} {tokens : List Token}
      (noBracket : token ∉ [.opening, .closing, .openingBracket, .closingBracket])
      (rest : Balanced tokens) : Balanced (token :: tokens)
  | parentheses {inside tokens : List Token} (inner : Balanced inside) (rest : Balanced tokens) :
      Balanced (.opening :: (inside ++ .closing :: tokens))
  | brackets {inside tokens : List Token} (inner : Balanced inside) (rest : Balanced tokens) :
      Balanced (.openingBracket :: (inside ++ .closingBracket :: tokens))

theorem Balanced.append {before after : List Token} (first : Balanced before) (second : Balanced after) :
    Balanced (before ++ after) := by
  induction first with
  | nil => exact second
  | plain noBracket _ ih => exact .plain noBracket ih
  | parentheses inner _ _ ih =>
      rw [List.cons_append, List.append_assoc, List.cons_append]
      exact .parentheses inner ih
  | brackets inner _ _ ih =>
      rw [List.cons_append, List.append_assoc, List.cons_append]
      exact .brackets inner ih

theorem axisTokens_balanced (axis : Option Axis) : Balanced (axisTokens axis) := by
  cases axis with
  | none => exact .nil
  | some axis =>
      cases axis <;>
        first
        | exact .plain (by simp) .nil
        | exact .plain (by simp) (.plain (by simp) .nil)

theorem NodeTest.tokens_balanced (test : NodeTest) : Balanced test.tokens := by
  cases test with
  | name label => exact .plain (by simp) .nil
  | principal => exact .plain (by simp) .nil
  | text => exact .plain (by simp) (.parentheses .nil .nil)
  | node => exact .plain (by simp) (.parentheses .nil .nil)

/-- Whatever can be read has its brackets balanced. -/
theorem Derives.balanced {phrase : Phrase} {tokens : List Token} (reading : Derives phrase tokens) :
    Balanced tokens := by
  induction reading with
  | tighter _ _ ih => exact ih
  | operation _ _ _ left right => exact left.append (.plain (by simp) right)
  | location _ ih => exact ih
  | filter _ ih => exact ih
  | filterThen _ _ base ih => exact base.append (.plain (by simp) ih)
  | filterThenBelow _ _ base ih => exact base.append (.plain (by simp) ih)
  | fromContext _ ih => exact ih
  | fromDocument _ ih => exact .plain (by simp) ih
  | first _ ih => exact ih
  | context => exact .plain (by simp) .nil
  | parent => exact .plain (by simp) .nil
  | walk _ _ base ih => exact base.append (.plain (by simp) ih)
  | descend _ _ base ih => exact base.append (.plain (by simp) ih)
  | step _ ih => exact (axisTokens_balanced _).append ((NodeTest.tokens_balanced _).append ih)
  | noPredicate => exact .nil
  | predicate _ _ inside after => exact .brackets inside after
  | primary _ ih => exact ih
  | filtered _ _ base ih => exact base.append (.brackets ih .nil)
  | group _ ih => exact .parentheses ih .nil
  | literal value => exact .plain (by simp) .nil
  | number value => exact .plain (by simp) .nil
  | call _ ih => exact .plain (by simp) (.parentheses ih .nil)
  | noArgument => exact .nil
  | lastArgument _ ih => exact ih
  | argument _ _ _ first others => exact first.append (.plain (by simp) others)

/-! ## The ends of path expressions -/

/-- True of the phrases that a step begins. -/
def Phrase.startsWithStep : Phrase → Bool
  | .relative _ _ | .step _ => true
  | _ => false

theorem NodeTest.tokens_start (test : NodeTest) :
    ∃ first rest, test.tokens = first :: rest ∧ first ≠ .opening := by
  cases test <;> exact ⟨_, _, rfl, nofun⟩

/-- A step does not begin with a parenthesis. -/
theorem Derives.start_ne_opening {phrase : Phrase} {tokens : List Token} (reading : Derives phrase tokens)
    (steps : phrase.startsWithStep = true) : ∃ first rest, tokens = first :: rest ∧ first ≠ .opening := by
  induction reading with
  | first _ ih => exact ih rfl
  | context | parent => exact ⟨_, _, rfl, nofun⟩
  | walk _ _ base | descend _ _ base =>
      obtain ⟨first, rest, rfl, other⟩ := base rfl
      exact ⟨first, _, rfl, other⟩
  | @step axis test _ _ _ =>
      cases axis with
      | none =>
          obtain ⟨first, rest, tokens, other⟩ := test.tokens_start
          rw [tokens]
          exact ⟨first, _, rfl, other⟩
      | some axis => cases axis <;> exact ⟨_, _, rfl, nofun⟩
  | _ => cases steps

theorem Derives.location_start {expression : Expr} {tokens : List Token}
    (reading : Derives (.location expression) tokens) : tokens.head? ≠ some .opening := by
  cases reading with
  | fromContext relative =>
      obtain ⟨first, rest, rfl, other⟩ := relative.start_ne_opening rfl
      simpa using other
  | fromDocument => simp

/-- A filter expression does not end with a name. -/
theorem Derives.filter_end {expression : Expr} {tokens : List Token}
    (reading : Derives (.filter expression) tokens) (name : String) : tokens.getLast? ≠ some (.name name) := by
  have closed (front : List Token) {last : Token} (closes : last ≠ .name name) :
      (front ++ [last]).getLast? ≠ some (.name name) := by
    rw [List.getLast?_concat]
    exact fun same => closes (Option.some.inj same)
  cases reading with
  | primary reading =>
      cases reading with
      | group => exact closed (_ :: _) nofun
      | literal | number => exact closed [] nofun
      | call => exact closed (_ :: _ :: _) nofun
  | @filtered _ _ before inside _ _ =>
      have closes := closed (before ++ .openingBracket :: inside) (nofun : Token.closingBracket ≠ .name name)
      rwa [List.append_assoc, List.cons_append] at closes

end Locator.XPath
