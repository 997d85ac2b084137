import Locator.Proofs.XPath.Strings
import Locator.XPath.Printer

/-!
# Tokens

How text is cut into tokens, by the lexical rules of XPath 1.0: always the longest token, blanks between tokens
skipped, and names and stars told apart by the token before them and the characters after them. Left out are
the tokens of which the expressions here make no use: variables, prefixes of names, numbers with a fraction,
comments and instructions, and some operators.
-/

namespace Locator.XPath

set_option autoImplicit false

inductive Token where
  | opening
  | closing
  | openingBracket
  | closingBracket
  | dot
  | dots
  | at
  | comma
  | colons
  | slash
  | slashes
  | operator (operator : Operator)
  | name (name : String)
  | star
  | nodeType (test : NodeTest)
  | function (function : Function)
  | axis (axis : Axis)
  | literal (value : String)
  | number (value : Nat)
  deriving DecidableEq

/-- True where an operand has to come next, by the token before. -/
def awaitsOperand : Option Token → Bool
  | none => true
  | some .opening | some .openingBracket | some .at | some .comma | some .colons => true
  | some .slash | some .slashes | some (.operator _) => true
  | some _ => false

/-- The characters that a name can start with, as ranges of code points. -/
def nameStartRanges : List (Nat × Nat) :=
  [(0x41, 0x5A), (0x5F, 0x5F), (0x61, 0x7A), (0xC0, 0xD6), (0xD8, 0xF6), (0xF8, 0x2FF),
    (0x370, 0x37D), (0x37F, 0x1FFF), (0x200C, 0x200D), (0x2070, 0x218F), (0x2C00, 0x2FEF),
    (0x3001, 0xD7FF), (0xF900, 0xFDCF), (0xFDF0, 0xFFFD), (0x10000, 0xEFFFF)]

/-- The characters that a name can only go on with. -/
def nameContinueRanges : List (Nat × Nat) :=
  [(0x2D, 0x2E), (0x30, 0x39), (0xB7, 0xB7), (0x300, 0x36F), (0x203F, 0x2040)]

def opensName (character : Char) : Bool :=
  nameStartRanges.any fun range => range.1 ≤ character.toNat && character.toNat ≤ range.2

def extendsName (character : Char) : Bool :=
  (nameStartRanges ++ nameContinueRanges).any fun range =>
    range.1 ≤ character.toNat && character.toNat ≤ range.2

def operatorNamed (name : String) : Option Operator :=
  if name = "or" then some .or else if name = "and" then some .and else none

def nodeTypeNamed (name : String) : Option NodeTest :=
  if name = "text" then some .text else if name = "node" then some .node else none

def functions : List Function :=
  [.true, .false, .not, .last, .count, .string, .localName, .normalizeSpace, .stringLength, .contains,
    .startsWith, .substring, .substringAfter, .concat]

def axes : List Axis :=
  [.self, .child, .parent, .ancestor, .preceding, .following, .precedingSibling, .followingSibling]

/-- What a name is: an operator after an operand; before a parenthesis a node type or a function; before two
colons an axis; and a name test elsewhere. -/
def classify (previous : Option Token) (name : String) (rest : List Char) : Option Token :=
  if awaitsOperand previous then
    match rest.dropWhile isSpace with
    | '(' :: _ =>
        match nodeTypeNamed name with
        | some test => some (.nodeType test)
        | none => (functions.find? fun function => function.name == name).map .function
    | ':' :: ':' :: _ => (axes.find? fun axis => axis.print == name ++ "::").map .axis
    | _ => some (.name name)
  else (operatorNamed name).map .operator

/-- A string up to the next quote of its kind. -/
def quoted (quote : Char) (rest : List Char) : Option (Token × List Char) :=
  match rest.dropWhile (· != quote) with
  | [] => none
  | _ :: others => some (.literal (String.ofList (rest.takeWhile (· != quote))), others)

def digits (text : List Char) : Option (Token × List Char) :=
  match text.dropWhile Char.isDigit with
  | '.' :: _ => none
  | others => some (.number (Nat.ofDigitChars 10 (text.takeWhile Char.isDigit) 0), others)

/-- A name up to the first character that is not part of names. -/
def word (previous : Option Token) (text : List Char) : Option (Token × List Char) :=
  let others := text.dropWhile extendsName
  (classify previous (String.ofList (text.takeWhile extendsName)) others).map (·, others)

def sign (previous : Option Token) : List Char → Option (Token × List Char)
  | '(' :: rest => some (.opening, rest)
  | ')' :: rest => some (.closing, rest)
  | '[' :: rest => some (.openingBracket, rest)
  | ']' :: rest => some (.closingBracket, rest)
  | '@' :: rest => some (.at, rest)
  | ',' :: rest => some (.comma, rest)
  | ':' :: ':' :: rest => some (.colons, rest)
  | '.' :: '.' :: rest => some (.dots, rest)
  | '.' :: rest => if rest.head?.any Char.isDigit then none else some (.dot, rest)
  | '/' :: '/' :: rest => some (.slashes, rest)
  | '/' :: rest => some (.slash, rest)
  | '|' :: rest => some (.operator .union, rest)
  | '+' :: rest => some (.operator .plus, rest)
  | '-' :: rest => some (.operator .minus, rest)
  | '=' :: rest => some (.operator .equal, rest)
  | '<' :: '=' :: rest => some (.operator .atMost, rest)
  | '>' :: '=' :: rest => some (.operator .atLeast, rest)
  | '>' :: rest => some (.operator .greater, rest)
  | '*' :: rest => if awaitsOperand previous then some (.star, rest) else none
  | _ => none

/-- The token at the start of a text, and the text after it. -/
def nextToken (previous : Option Token) : List Char → Option (Token × List Char)
  | [] => none
  | first :: rest =>
      if first = apostrophe ∨ first = quotation then quoted first rest
      else if first.isDigit then digits (first :: rest)
      else if opensName first then word previous (first :: rest)
      else sign previous (first :: rest)

/-- The text after a token is cut into these tokens. -/
inductive Lexes : Option Token → List Char → List Token → Prop where
  | done (previous : Option Token) : Lexes previous [] []
  | blank {previous : Option Token} {first : Char} {rest : List Char} {tokens : List Token}
      (space : isSpace first = true) (others : Lexes previous rest tokens) :
      Lexes previous (first :: rest) tokens
  | token {previous : Option Token} {text rest : List Char} {token : Token} {tokens : List Token}
      (next : nextToken previous text = some (token, rest)) (others : Lexes (some token) rest tokens) :
      Lexes previous text (token :: tokens)

theorem nextToken_space {previous : Option Token} {first : Char} (space : isSpace first = true)
    (rest : List Char) : nextToken previous (first :: rest) = none := by
  simp only [isSpace, Bool.or_eq_true, beq_iff_eq] at space
  rcases space with ((rfl | rfl) | rfl) | rfl <;> rfl

/-- There is only one way to cut a text into tokens. -/
theorem Lexes.unique {previous : Option Token} {text : List Char} {tokens others : List Token}
    (lexes : Lexes previous text tokens) (again : Lexes previous text others) : tokens = others := by
  induction lexes generalizing others with
  | done previous =>
      cases again with
      | done => rfl
      | token next _ => exact absurd next (by simp [nextToken])
  | blank space _ ih =>
      cases again with
      | blank _ rest => exact ih rest
      | token next _ =>
          rw [nextToken_space space] at next
          exact absurd next (by simp)
  | token next _ ih =>
      cases again with
      | done => exact absurd next (by simp [nextToken])
      | blank space _ =>
          rw [nextToken_space space] at next
          exact absurd next (by simp)
      | token next' rest =>
          rw [next, Option.some.injEq, Prod.mk.injEq] at next'
          rcases next' with ⟨rfl, rfl⟩
          rw [ih rest]

end Locator.XPath
