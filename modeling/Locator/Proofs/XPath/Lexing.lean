import Locator.Proofs.XPath.Grammar

/-!
# Cutting printed text into tokens

The tokens of a text do not depend on what stands around it, as long as an operand may start before it and
nothing comes right after it that would go on with its last token. So the tokens of a printed expression are
put together from those of its parts.
-/

namespace Locator.XPath

set_option autoImplicit false

/-- Where an operand may start, the text is cut into these tokens. -/
def LexesBefore (text : List Char) (tokens : List Token) : Prop :=
  ∀ previous, awaitsOperand previous = true → Lexes previous text tokens

/-- After an operand, the text is cut into these tokens. -/
def LexesAfter (text : List Char) (tokens : List Token) : Prop :=
  ∀ previous, awaitsOperand (some previous) = false → Lexes (some previous) text tokens

/-- The text does not go on with a name, a number or a dot, and it does not make a name before it the name of
a function or an axis. -/
def breaks (rest : List Char) : Bool :=
  rest.head?.all (fun character => !extendsName character) &&
    (rest.dropWhile isSpace).head?.all fun character => character != '(' && character != ':'

/-- The text starts with another character. -/
def Avoids (forbidden : Char) (text : List Char) : Prop :=
  ∃ first others, text = first :: others ∧ first ≠ forbidden

/-- Whatever comes after it, the text of an operand is cut into these tokens. -/
structure Renders (text : List Char) (tokens : List Token) : Prop where
  avoids : Avoids '=' text
  lexes : ∀ rest others, breaks rest = true → LexesAfter rest others →
    LexesBefore (text ++ rest) (tokens ++ others)

/-- The same for a text that comes after an operand and makes a larger one of it. -/
structure Trails (text : List Char) (tokens : List Token) : Prop where
  breaks : ∀ rest, breaks rest = true → breaks (text ++ rest) = true
  lexes : ∀ rest others, XPath.breaks rest = true → LexesAfter rest others →
    LexesAfter (text ++ rest) (tokens ++ others)

theorem Avoids.append {forbidden : Char} {text : List Char} (avoids : Avoids forbidden text)
    (rest : List Char) : Avoids forbidden (text ++ rest) := by
  rcases avoids with ⟨first, others, rfl, different⟩
  exact ⟨first, others ++ rest, rfl, different⟩

/-! ## Putting texts together -/

theorem Renders.append {before after : List Char} {first second : List Token}
    (renders : Renders before first) (trails : Trails after second) :
    Renders (before ++ after) (first ++ second) where
  avoids := renders.avoids.append after
  lexes := by
    intro rest others free continued
    rw [List.append_assoc, List.append_assoc]
    exact renders.lexes _ _ (trails.breaks rest free) (trails.lexes rest others free continued)

theorem Trails.nil : Trails [] [] where
  breaks := fun _ free => free
  lexes := fun _ _ _ continued => continued

theorem Trails.append {before after : List Char} {first second : List Token}
    (front : Trails before first) (back : Trails after second) :
    Trails (before ++ after) (first ++ second) where
  breaks := by
    intro rest free
    rw [List.append_assoc]
    exact front.breaks _ (back.breaks rest free)
  lexes := by
    intro rest others free continued
    rw [List.append_assoc, List.append_assoc]
    exact front.lexes _ _ (back.breaks rest free) (back.lexes rest others free continued)

theorem Renders.whole {text : List Char} {tokens : List Token} (renders : Renders text tokens) :
    Lexes none text tokens := by
  have all := renders.lexes [] [] rfl (fun previous _ => .done (some previous)) none rfl
  rwa [List.append_nil, List.append_nil] at all

/-! ## Signs -/

theorem LexesAfter.closing {rest : List Char} {others : List Token} (continued : LexesAfter rest others) :
    LexesAfter (')' :: rest) (.closing :: others) :=
  fun _ _ => .token rfl (continued .closing rfl)

theorem LexesAfter.closingBracket {rest : List Char} {others : List Token}
    (continued : LexesAfter rest others) : LexesAfter (']' :: rest) (.closingBracket :: others) :=
  fun _ _ => .token rfl (continued .closingBracket rfl)

theorem trails_brackets {text : List Char} {tokens : List Token} (inside : Renders text tokens) :
    Trails ('[' :: (text ++ [']'])) (.openingBracket :: (tokens ++ [.closingBracket])) where
  breaks := fun _ _ => rfl
  lexes := by
    intro rest others free continued previous _
    refine .token rfl ?_
    have closed := inside.lexes (']' :: rest) (.closingBracket :: others) rfl continued.closingBracket
    simpa using closed (some .openingBracket) rfl

theorem renders_parentheses {text : List Char} {tokens : List Token} (inside : Renders text tokens) :
    Renders ('(' :: (text ++ [')'])) (.opening :: (tokens ++ [.closing])) where
  avoids := ⟨'(', _, rfl, by decide⟩
  lexes := by
    intro rest others free continued previous _
    refine .token rfl ?_
    have closed := inside.lexes (')' :: rest) (.closing :: others) rfl continued.closing
    simpa using closed (some .opening) rfl

theorem trails_comma {text : List Char} {tokens : List Token} (next : Renders text tokens) :
    Trails (',' :: ' ' :: text) (.comma :: tokens) where
  breaks := fun _ _ => rfl
  lexes := by
    intro rest others free continued previous _
    exact .token rfl (.blank rfl (next.lexes rest others free continued (some .comma) rfl))

theorem nextToken_slash {previous : Option Token} {text : List Char} (single : Avoids '/' text) :
    nextToken previous ('/' :: text) = some (.slash, text) := by
  rcases single with ⟨first, others, rfl, different⟩
  change sign previous ('/' :: first :: others) = some (.slash, first :: others)
  rw [sign]
  intro rest same
  exact different (List.cons.inj same).1

theorem trails_slash {text : List Char} {tokens : List Token} (next : Renders text tokens)
    (single : Avoids '/' text) : Trails ('/' :: text) (.slash :: tokens) where
  breaks := fun _ _ => rfl
  lexes := by
    intro rest others free continued previous _
    refine .token (nextToken_slash (single.append rest)) ?_
    exact next.lexes rest others free continued (some .slash) rfl

theorem trails_slashes {text : List Char} {tokens : List Token} (next : Renders text tokens) :
    Trails ('/' :: '/' :: text) (.slashes :: tokens) where
  breaks := fun _ _ => rfl
  lexes := by
    intro rest others free continued previous _
    exact .token rfl (next.lexes rest others free continued (some .slashes) rfl)

theorem renders_slashes {text : List Char} {tokens : List Token} (next : Renders text tokens) :
    Renders ('/' :: '/' :: text) (.slashes :: tokens) where
  avoids := ⟨'/', _, rfl, by decide⟩
  lexes := by
    intro rest others free continued previous _
    exact .token rfl (next.lexes rest others free continued (some .slashes) rfl)

theorem nextToken_greater {previous : Option Token} {text : List Char} (single : Avoids '=' text) :
    nextToken previous ('>' :: text) = some (.operator .greater, text) := by
  rcases single with ⟨first, others, rfl, different⟩
  change sign previous ('>' :: first :: others) = some (.operator .greater, first :: others)
  rw [sign]
  intro rest same
  exact different (List.cons.inj same).1

/-! ## Characters -/

theorem opensName_iff {character : Char} : opensName character = true ↔
    ∃ range ∈ nameStartRanges, range.1 ≤ character.toNat ∧ character.toNat ≤ range.2 := by
  simp only [opensName, List.any_eq_true, Bool.and_eq_true, decide_eq_true_eq]

theorem extendsName_of_opensName {character : Char} (opens : opensName character = true) :
    extendsName character = true := by
  simp only [opensName, extendsName, List.any_append, Bool.or_eq_true] at opens ⊢
  exact .inl opens

theorem extendsName_of_isDigit {character : Char} (digit : character.isDigit = true) :
    extendsName character = true := by
  have range := Char.isDigit_iff_toNat.mp digit
  simp only [extendsName, List.any_append, Bool.or_eq_true]
  right
  simp only [nameContinueRanges, List.any_cons, Bool.or_eq_true, Bool.and_eq_true, decide_eq_true_eq]
  exact .inr (.inl range)

theorem isDigit_eq_false_of_opensName {character : Char} (opens : opensName character = true) :
    character.isDigit = false := by
  rw [Bool.eq_false_iff]
  intro digit
  obtain ⟨low, high⟩ := Char.isDigit_iff_toNat.mp digit
  have low' : 48 ≤ character.toNat := low
  have high' : character.toNat ≤ 57 := high
  obtain ⟨range, member, least, greatest⟩ := opensName_iff.mp opens
  have outside : ∀ range ∈ nameStartRanges, 57 < range.1 := by decide
  have above := outside range member
  omega

theorem opensName_of_isNameStart {character : Char} (plain : isNameStart character = true) :
    opensName character = true := by
  have letters : character.isAlpha =
      (decide (0x41 ≤ character.toNat ∧ character.toNat ≤ 0x5A) ||
        decide (0x61 ≤ character.toNat) && decide (character.toNat ≤ 0x7A)) := rfl
  simp only [isNameStart, letters, Bool.or_eq_true, Bool.and_eq_true, decide_eq_true_eq,
    beq_iff_eq] at plain
  rw [opensName_iff]
  rcases plain with (upper | lower) | rfl
  · exact ⟨(0x41, 0x5A), by decide, upper⟩
  · exact ⟨(0x61, 0x7A), by decide, lower⟩
  · exact ⟨(0x5F, 0x5F), by decide, by decide⟩

theorem extendsName_of_isNameContinue {character : Char} (plain : isNameContinue character = true) :
    extendsName character = true := by
  simp only [isNameContinue, Char.isAlphanum, Bool.or_eq_true, beq_iff_eq] at plain
  rcases plain with (((letter | digit) | rfl) | rfl) | rfl
  · apply extendsName_of_opensName
    apply opensName_of_isNameStart
    simp [isNameStart, letter]
  · exact extendsName_of_isDigit digit
  · decide
  · decide
  · decide

/-! ## Names -/

def isWord : List Char → Bool
  | [] => false
  | first :: others => opensName first && others.all extendsName

theorem isWord_of_isPlainName {name : String} (plain : isPlainName name = true) :
    isWord name.toList = true := by
  unfold isPlainName at plain
  cases characters : name.toList with
  | nil => simp [characters] at plain
  | cons first others =>
      simp only [characters, Bool.and_eq_true, List.all_eq_true] at plain
      simp only [isWord, Bool.and_eq_true, List.all_eq_true]
      refine ⟨opensName_of_isNameStart plain.1, ?_⟩
      intro character member
      exact extendsName_of_isNameContinue (plain.2 character member)

theorem takeWhile_append_stop {accepted : Char → Bool} {front rest : List Char}
    (all : ∀ character ∈ front, accepted character = true)
    (stop : rest.head?.all (fun character => !accepted character) = true) :
    (front ++ rest).takeWhile accepted = front := by
  rw [List.takeWhile_append_of_pos all]
  cases rest with
  | nil => simp
  | cons first others =>
      have refused : accepted first = false := by simpa using stop
      rw [List.takeWhile_cons_of_neg (by simp [refused]), List.append_nil]

theorem dropWhile_append_stop {accepted : Char → Bool} {front rest : List Char}
    (all : ∀ character ∈ front, accepted character = true)
    (stop : rest.head?.all (fun character => !accepted character) = true) :
    (front ++ rest).dropWhile accepted = rest := by
  rw [List.dropWhile_append_of_pos all]
  cases rest with
  | nil => rfl
  | cons first others =>
      have refused : accepted first = false := by simpa using stop
      rw [List.dropWhile_cons_of_neg (by simp [refused])]

/-- A name is one token, told by `classify`. -/
theorem nextToken_word {previous : Option Token} {name : String} (isWord : isWord name.toList = true)
    {rest : List Char} (stop : rest.head?.all (fun character => !extendsName character) = true) :
    nextToken previous (name.toList ++ rest) = (classify previous name rest).map (·, rest) := by
  cases characters : name.toList with
  | nil => simp [characters, XPath.isWord] at isWord
  | cons first others =>
      simp only [characters, XPath.isWord, Bool.and_eq_true, List.all_eq_true] at isWord
      have all : ∀ character ∈ first :: others, extendsName character = true := by
        intro character member
        rcases List.mem_cons.mp member with rfl | later
        · exact extendsName_of_opensName isWord.1
        · exact isWord.2 character later
      have noQuote : ¬ (first = apostrophe ∨ first = quotation) := by
        intro given
        rcases given with rfl | rfl <;> exact absurd isWord.1 (by decide)
      have same : String.ofList (first :: others) = name := by
        rw [← characters, String.ofList_toList]
      simp only [nextToken, List.cons_append, if_neg noQuote, isDigit_eq_false_of_opensName isWord.1,
        Bool.false_eq_true, if_false, isWord.1, if_true]
      rw [← List.cons_append, word, takeWhile_append_stop all stop, dropWhile_append_stop all stop, same]

theorem stop_of_breaks {rest : List Char} (free : breaks rest = true) :
    rest.head?.all (fun character => !extendsName character) = true := by
  simp only [breaks, Bool.and_eq_true] at free
  exact free.1

theorem classify_name {previous : Option Token} (operand : awaitsOperand previous = true) (name : String)
    {rest : List Char} (free : breaks rest = true) : classify previous name rest = some (.name name) := by
  simp only [breaks, Bool.and_eq_true] at free
  unfold classify
  rw [if_pos operand]
  split
  · rename_i opened
    rw [opened] at free
    exact absurd free.2 (by simp)
  · rename_i opened
    rw [opened] at free
    exact absurd free.2 (by simp)
  · rfl

theorem avoids_of_isWord {name : List Char} {forbidden : Char} (word : isWord name = true)
    (outside : opensName forbidden = false) : Avoids forbidden name := by
  cases name with
  | nil => simp [isWord] at word
  | cons first others =>
      simp only [isWord, Bool.and_eq_true] at word
      refine ⟨first, others, rfl, ?_⟩
      intro agree
      subst agree
      rw [outside] at word
      exact Bool.false_ne_true word.1

theorem renders_name {name : String} (word : isWord name.toList = true) :
    Renders name.toList [.name name] where
  avoids := avoids_of_isWord word (by decide)
  lexes := by
    intro rest others free continued previous operand
    refine .token ?_ (continued (.name name) rfl)
    rw [nextToken_word word (stop_of_breaks free), classify_name operand name free]
    rfl

/-- What a name right before a parenthesis is. -/
def called (name : String) : Option Token :=
  match nodeTypeNamed name with
  | some test => some (.nodeType test)
  | none => (functions.find? fun function => function.name == name).map .function

theorem nextToken_called {previous : Option Token} (operand : awaitsOperand previous = true)
    {name : String} (word : isWord name.toList = true) (rest : List Char) :
    nextToken previous (name.toList ++ '(' :: rest) = (called name).map (·, '(' :: rest) := by
  rw [nextToken_word word (by rfl), classify, if_pos operand]
  rfl

theorem isWord_function (function : Function) : isWord function.name.toList = true := by
  cases function <;> decide

theorem called_function (function : Function) : called function.name = some (.function function) := by
  cases function <;> decide

theorem renders_call (function : Function) {text : List Char} {tokens : List Token}
    (inside : ∀ rest others, LexesAfter rest others →
      Lexes (some .opening) (text ++ ')' :: rest) (tokens ++ .closing :: others)) :
    Renders (function.name.toList ++ '(' :: (text ++ [')']))
      (.function function :: .opening :: (tokens ++ [.closing])) where
  avoids := (avoids_of_isWord (isWord_function function) (by decide)).append _
  lexes := by
    intro rest others free continued previous operand
    have closed := inside rest others continued
    have head := nextToken_called operand (isWord_function function) (text ++ ')' :: rest)
    rw [called_function] at head
    simp only [List.append_assoc, List.cons_append, List.nil_append]
    exact .token head (.token rfl closed)

theorem renders_nodeType {test : NodeTest} (typed : test = .text ∨ test = .node) :
    Renders test.print.toList [.nodeType test, .opening, .closing] where
  avoids := by
    rcases typed with rfl | rfl
    · exact ⟨'t', _, rfl, by decide⟩
    · exact ⟨'n', _, rfl, by decide⟩
  lexes := by
    intro rest others free continued previous operand
    have parentheses : Lexes (some (.nodeType test)) ('(' :: ')' :: rest)
        (.opening :: .closing :: others) :=
      .token rfl (.token rfl (continued .closing rfl))
    rcases typed with rfl | rfl
    · have head := nextToken_called operand (by decide : isWord "text".toList = true) (')' :: rest)
      exact .token head parentheses
    · have head := nextToken_called operand (by decide : isWord "node".toList = true) (')' :: rest)
      exact .token head parentheses

theorem renders_star : Renders ['*'] [.star] where
  avoids := ⟨'*', _, rfl, by decide⟩
  lexes := by
    intro rest others free continued previous operand
    refine .token ?_ (continued .star rfl)
    change sign previous ('*' :: rest) = some (.star, rest)
    rw [sign, if_pos operand]

theorem axis_word {axis : Axis} (notAttributes : axis ≠ .attributes) :
    ∃ name : String, isWord name.toList = true ∧ axis.print = name ++ "::" ∧
      axes.find? (fun other => other.print == name ++ "::") = some axis := by
  cases axis with
  | self => exact ⟨"self", by decide, rfl, by decide⟩
  | child => exact ⟨"child", by decide, rfl, by decide⟩
  | parent => exact ⟨"parent", by decide, rfl, by decide⟩
  | ancestor => exact ⟨"ancestor", by decide, rfl, by decide⟩
  | preceding => exact ⟨"preceding", by decide, rfl, by decide⟩
  | following => exact ⟨"following", by decide, rfl, by decide⟩
  | precedingSibling => exact ⟨"preceding-sibling", by decide, rfl, by decide⟩
  | followingSibling => exact ⟨"following-sibling", by decide, rfl, by decide⟩
  | attributes => exact absurd rfl notAttributes

theorem axisTokens_of_ne {axis : Axis} (notAttributes : axis ≠ .attributes) :
    axisTokens (some axis) = [.axis axis, .colons] := by
  cases axis <;> first | rfl | exact absurd rfl notAttributes

theorem lexesBefore_axis {axis : Option Axis} {text : List Char} {tokens : List Token}
    (continued : LexesBefore text tokens) :
    LexesBefore (((axis.map Axis.print).getD "").toList ++ text) (axisTokens axis ++ tokens) := by
  intro previous operand
  cases axis with
  | none => exact continued previous operand
  | some axis =>
      by_cases attributes : axis = .attributes
      · subst attributes
        exact .token rfl (continued (some .at) rfl)
      · obtain ⟨name, word, printed, found⟩ := axis_word attributes
        have head : nextToken previous (name.toList ++ ':' :: ':' :: text) =
            some (.axis axis, ':' :: ':' :: text) := by
          rw [nextToken_word word (by rfl), classify, if_pos operand]
          change ((axes.find? fun other => other.print == name ++ "::").map Token.axis).map _ = _
          rw [found]
          rfl
        have colons : Lexes (some (.axis axis)) (':' :: ':' :: text) (.colons :: tokens) :=
          .token rfl (continued (some .colons) rfl)
        rw [axisTokens_of_ne attributes, Option.map_some, Option.getD_some, printed,
          String.toList_append, List.append_assoc]
        exact .token head colons

theorem avoids_axis {forbidden : Char} (noName : opensName forbidden = false) (noSign : '@' ≠ forbidden)
    (axis : Option Axis) {text : List Char} (avoids : Avoids forbidden text) :
    Avoids forbidden (((axis.map Axis.print).getD "").toList ++ text) := by
  cases axis with
  | none => exact avoids
  | some axis =>
      by_cases attributes : axis = .attributes
      · subst attributes
        exact ⟨'@', text, rfl, noSign⟩
      · obtain ⟨name, word, printed, -⟩ := axis_word attributes
        rw [Option.map_some, Option.getD_some, printed, String.toList_append]
        exact ((avoids_of_isWord word noName).append _).append _

theorem Renders.along {text : List Char} {tokens : List Token} (renders : Renders text tokens)
    (axis : Option Axis) :
    Renders (((axis.map Axis.print).getD "").toList ++ text) (axisTokens axis ++ tokens) where
  avoids := avoids_axis (by decide) (by decide) axis renders.avoids
  lexes := by
    intro rest others free continued
    rw [List.append_assoc, List.append_assoc]
    exact lexesBefore_axis (renders.lexes rest others free continued)

/-! ## Dots, numbers and strings -/

theorem renders_dot : Renders ['.'] [.dot] where
  avoids := ⟨'.', _, rfl, by decide⟩
  lexes := by
    intro rest others free continued previous operand
    refine .token ?_ (continued .dot rfl)
    cases rest with
    | nil => rfl
    | cons first rest =>
        have stop : extendsName first = false := by simpa using stop_of_breaks free
        have noDigit : first.isDigit = false := by
          rw [Bool.eq_false_iff]
          intro digit
          rw [extendsName_of_isDigit digit] at stop
          exact Bool.false_ne_true stop.symm
        have noDot : first ≠ '.' := by
          intro agree
          subst agree
          exact absurd stop (by decide)
        change sign previous ('.' :: first :: rest) = some (.dot, first :: rest)
        rw [sign]
        · simp [noDigit]
        · intro others same
          exact noDot (List.cons.inj same).1

theorem renders_dots : Renders ['.', '.'] [.dots] where
  avoids := ⟨'.', _, rfl, by decide⟩
  lexes := by
    intro rest others free continued previous operand
    exact .token rfl (continued .dots rfl)

theorem renders_number (value : Nat) : Renders (toString value).toList [.number value] := by
  have characters : (toString value).toList = Nat.toDigits 10 value := Nat.toList_repr
  have allDigits : ∀ character ∈ Nat.toDigits 10 value, character.isDigit = true := fun character member =>
    Nat.isDigit_of_mem_toDigits (by decide) (by decide) member
  rw [characters]
  cases written : Nat.toDigits 10 value with
  | nil => exact absurd written Nat.toDigits_ne_nil
  | cons first others =>
      have firstDigit : first.isDigit = true := allDigits first (by simp [written])
      have whole : Nat.ofDigitChars 10 (first :: others) 0 = value := by
        rw [← written, Nat.ofDigitChars_ten_toDigits]
      refine ⟨⟨first, others, rfl, ?_⟩, ?_⟩
      · intro agree
        subst agree
        exact absurd firstDigit (by decide)
      · intro rest after free continued previous operand
        refine .token ?_ (continued (.number value) rfl)
        have noQuote : ¬ (first = apostrophe ∨ first = quotation) := by
          intro given
          rcases given with rfl | rfl <;> exact absurd firstDigit (by decide)
        have stop := stop_of_breaks free
        have stopDigit : rest.head?.all (fun character => !character.isDigit) = true := by
          cases rest with
          | nil => rfl
          | cons next rest =>
              simp only [List.head?_cons, Option.all_some, Bool.not_eq_true'] at stop ⊢
              rw [Bool.eq_false_iff]
              intro digit
              rw [extendsName_of_isDigit digit] at stop
              exact Bool.false_ne_true stop.symm
        rw [written] at allDigits
        simp only [nextToken, List.cons_append, if_neg noQuote, firstDigit, if_true]
        rw [← List.cons_append, digits, takeWhile_append_stop allDigits stopDigit,
          dropWhile_append_stop allDigits stopDigit, whole]
        split
        · have dot : extendsName '.' = false := by simpa using stop
          exact absurd dot (by decide)
        · rfl

theorem renders_quoted {quote : Char} (isQuote : quote = apostrophe ∨ quote = quotation) {value : String}
    (inside : quote ∉ value.toList) :
    Renders (quote :: (value.toList ++ [quote])) [.literal value] where
  avoids := by
    refine ⟨quote, _, rfl, ?_⟩
    rcases isQuote with rfl | rfl <;> decide
  lexes := by
    intro rest others free continued previous operand
    refine .token ?_ (continued (.literal value) rfl)
    have all : ∀ character ∈ value.toList, (character != quote) = true := by
      intro character member
      rw [bne_iff_ne]
      intro agree
      subst agree
      exact inside member
    have stop : (quote :: rest).head?.all (fun character => !(character != quote)) = true := by simp
    simp only [nextToken, List.cons_append, List.append_assoc, List.nil_append, if_pos isQuote]
    rw [quoted, takeWhile_append_stop all stop, dropWhile_append_stop all stop, String.ofList_toList]

/-! ## Operators -/

/-- An operator that is a name, with the blanks around it. -/
theorem trails_named {operator : Operator} {name : String} (word : isWord name.toList = true)
    (named : operatorNamed name = some operator)
    (free : ∀ text, breaks (' ' :: (name.toList ++ ' ' :: text)) = true) {text : List Char}
    {tokens : List Token} (next : Renders text tokens) :
    Trails (' ' :: (name.toList ++ ' ' :: text)) (.operator operator :: tokens) where
  breaks := by
    intro rest _
    have longer := free (text ++ rest)
    simpa using longer
  lexes := by
    intro rest others freeRest continued previous operand
    have after := next.lexes rest others freeRest continued (some (.operator operator)) rfl
    have head : nextToken (some previous) (name.toList ++ ' ' :: (text ++ rest)) =
        some (.operator operator, ' ' :: (text ++ rest)) := by
      rw [nextToken_word word (by rfl), classify, operand]
      simp [named]
    simp only [List.cons_append, List.append_assoc]
    exact .blank rfl (.token head (.blank rfl after))

theorem trails_sign {operator : Operator} {written : List Char}
    (free : ∀ text, breaks (written ++ text) = true)
    {text : List Char} {tokens : List Token} (next : Renders text tokens)
    (lexes : ∀ rest others, Avoids '=' rest → Lexes (some (.operator operator)) rest others →
      LexesAfter (written ++ rest) (.operator operator :: others)) :
    Trails (written ++ text) (.operator operator :: tokens) where
  breaks := by
    intro rest _
    rw [List.append_assoc]
    exact free _
  lexes := by
    intro rest others freeRest continued
    have after := next.lexes rest others freeRest continued (some (.operator operator)) rfl
    rw [List.append_assoc]
    exact lexes (text ++ rest) (tokens ++ others) (next.avoids.append rest) after

theorem trails_tight_union {text : List Char} {tokens : List Token} (next : Renders text tokens) :
    Trails (['|'] ++ text) (.operator .union :: tokens) :=
  trails_sign (fun _ => rfl) next fun _ _ _ after _ _ => .token rfl after

theorem trails_operator (operator : Operator) {text : List Char} {tokens : List Token}
    (next : Renders text tokens) :
    Trails (operator.print.toList ++ text) (.operator operator :: tokens) := by
  cases operator with
  | or => exact trails_named (by decide : isWord "or".toList = true) rfl (fun _ => rfl) next
  | and => exact trails_named (by decide : isWord "and".toList = true) rfl (fun _ => rfl) next
  | equal => exact trails_sign (fun _ => rfl) next fun _ _ _ after _ _ => .token rfl after
  | atLeast => exact trails_sign (fun _ => rfl) next fun _ _ _ after _ _ => .token rfl after
  | atMost => exact trails_sign (fun _ => rfl) next fun _ _ _ after _ _ => .token rfl after
  | greater =>
      exact trails_sign (fun _ => rfl) next fun _ _ single after _ _ =>
        .token (nextToken_greater single) after
  | plus =>
      exact trails_sign (fun _ => rfl) next fun _ _ _ after _ _ =>
        .blank rfl (.token rfl (.blank rfl after))
  | minus =>
      exact trails_sign (fun _ => rfl) next fun _ _ _ after _ _ =>
        .blank rfl (.token rfl (.blank rfl after))
  | union =>
      exact trails_sign (fun _ => rfl) next fun _ _ _ after _ _ =>
        .blank rfl (.token rfl (.blank rfl after))

end Locator.XPath
