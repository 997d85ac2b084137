import Locator.Proofs.XPath.Lexing

/-!
# Words

How any text of XPath 1.0 is cut, by the lexical rules of the recommendation in full, and with no more said of a
piece than is needed to tell where an operand ends: tokens tell more and leave some out, words tell less and
leave none out. Names are not looked up. After an operand a name or a star is an operator, elsewhere it is not.
-/

namespace Locator.XPath

set_option autoImplicit false

inductive Word where
  | opening
  | closing
  | openingBracket
  | closingBracket
  /-- A name, with its prefix if it has one, a variable, a number, a string with its quotes, dots, or a star. -/
  | operand (text : String)
  | operator (text : String)
  /-- What has to be followed by an operand and is no operator. -/
  | mark (text : String)
  deriving DecidableEq

namespace Word

/-- True where an operand has to come next, by the word before. -/
def awaitsOperand : Option Word → Bool
  | none | some .opening | some .openingBracket | some (.operator _) | some (.mark _) => true
  | some .closing | some .closingBracket | some (.operand _) => false

/-- The text after a name that goes on with a colon and a local name or a star, cut behind these. -/
def localPart : List Char → List Char × List Char
  | ':' :: '*' :: rest => ([':', '*'], rest)
  | ':' :: first :: rest =>
      if opensName first then (':' :: first :: rest.takeWhile extendsName, rest.dropWhile extendsName)
      else ([], ':' :: first :: rest)
  | rest => ([], rest)

/-- A name at the front of a text, with its prefix if it has one. -/
def name (text : List Char) : List Char × List Char :=
  let part := localPart (text.dropWhile extendsName)
  (text.takeWhile extendsName ++ part.1, part.2)

/-- The digits after a point, and the point. -/
def fraction : List Char → List Char × List Char
  | '.' :: rest => ('.' :: rest.takeWhile Char.isDigit, rest.dropWhile Char.isDigit)
  | rest => ([], rest)

/-- A number at the front of a text, which starts with a digit or a point. -/
def number (text : List Char) : List Char × List Char :=
  let part := fraction (text.dropWhile Char.isDigit)
  (text.takeWhile Char.isDigit ++ part.1, part.2)

/-- A string after its opening quote. -/
def string (quote : Char) (rest : List Char) : Option (Word × List Char) :=
  match rest.dropWhile (· != quote) with
  | [] => none
  | _ :: others => some (.operand (String.ofList (quote :: (rest.takeWhile (· != quote) ++ [quote]))), others)

def operatorNames : List String :=
  ["or", "and", "mod", "div"]

/-- The remaining words, longer ones before those that they start with. -/
def signs (previous : Option Word) : List (List Char × Word) :=
  [(['.', '.'], .operand ".."), (['.'], .operand "."), ([':', ':'], .mark "::"), (['/', '/'], .operator "//"),
    (['/'], .operator "/"), (['!', '='], .operator "!="), (['<', '='], .operator "<="), (['<'], .operator "<"),
    (['>', '='], .operator ">="), (['>'], .operator ">"), (['='], .operator "="), (['|'], .operator "|"),
    (['+'], .operator "+"), (['-'], .operator "-"), (['('], .opening), ([')'], .closing),
    (['['], .openingBracket), ([']'], .closingBracket), (['@'], .mark "@"), ([','], .mark ","),
    (['*'], if awaitsOperand previous then .operand "*" else .operator "*")]

def sign (previous : Option Word) (text : List Char) : Option (Word × List Char) :=
  ((signs previous).find? fun sign => sign.1.isPrefixOf text).map fun sign =>
    (sign.2, text.drop sign.1.length)

/-- The word at the start of a text, and the text after it. -/
def next (previous : Option Word) : List Char → Option (Word × List Char)
  | [] => none
  | first :: rest =>
      if first = apostrophe ∨ first = quotation then string first rest
      else if first.isDigit || (first == '.' && rest.head?.any Char.isDigit) then
        some (.operand (String.ofList (number (first :: rest)).1), (number (first :: rest)).2)
      else if opensName first then
        if awaitsOperand previous then
          some (.operand (String.ofList (name (first :: rest)).1), (name (first :: rest)).2)
        else if String.ofList ((first :: rest).takeWhile extendsName) ∈ operatorNames then
          some (.operator (String.ofList ((first :: rest).takeWhile extendsName)),
            (first :: rest).dropWhile extendsName)
        else none
      else if first = '$' ∧ rest.head?.any opensName then
        some (.operand (String.ofList ('$' :: (name rest).1)), (name rest).2)
      else sign previous (first :: rest)

end Word

/-- The text after a word is cut into these words. -/
inductive Cuts : Option Word → List Char → List Word → Prop where
  | done (previous : Option Word) : Cuts previous [] []
  | blank {previous : Option Word} {first : Char} {rest : List Char} {words : List Word}
      (space : isSpace first = true) (others : Cuts previous rest words) : Cuts previous (first :: rest) words
  | word {previous : Option Word} {text rest : List Char} {word : Word} {words : List Word}
      (next : Word.next previous text = some (word, rest)) (others : Cuts (some word) rest words) :
      Cuts previous text (word :: words)

theorem Word.next_space {previous : Option Word} {first : Char} (space : isSpace first = true)
    (rest : List Char) : Word.next previous (first :: rest) = none := by
  simp only [isSpace, Bool.or_eq_true, beq_iff_eq] at space
  rcases space with ((rfl | rfl) | rfl) | rfl <;> rfl

/-- There is only one way to cut a text into words. -/
theorem Cuts.unique {previous : Option Word} {text : List Char} {words others : List Word}
    (cuts : Cuts previous text words) (again : Cuts previous text others) : words = others := by
  induction cuts generalizing others with
  | done previous =>
      cases again with
      | done => rfl
      | word next _ => exact absurd next (by simp [Word.next])
  | blank space _ ih =>
      cases again with
      | blank _ rest => exact ih rest
      | word next _ =>
          rw [Word.next_space space] at next
          exact absurd next (by simp)
  | word next _ ih =>
      cases again with
      | done => exact absurd next (by simp [Word.next])
      | blank space _ =>
          rw [Word.next_space space] at next
          exact absurd next (by simp)
      | word next' rest =>
          rw [next, Option.some.injEq, Prod.mk.injEq] at next'
          rcases next' with ⟨rfl, rfl⟩
          rw [ih rest]

/-! ## What comes after an operand -/

/-- The characters that come right after operands and belong to none. -/
def severing : List Char :=
  [' ', '(', ')', ']', '[', '/', '|', '=', '>', '<', ',']

theorem extendsName_severing : ∀ mark ∈ severing, extendsName mark = false := by
  simp only [severing, List.forall_mem_cons]
  refine ⟨?_, ?_, ?_, ?_, ?_, ?_, ?_, ?_, ?_, ?_, ?_, by simp⟩ <;> decide

theorem opensName_severing : ∀ mark ∈ severing, opensName mark = false := by
  intro mark member
  rw [Bool.eq_false_iff]
  intro opens
  exact Bool.eq_false_iff.mp (extendsName_severing mark member) (extendsName_of_opensName opens)

theorem isDigit_severing : ∀ mark ∈ severing, mark.isDigit = false := by
  intro mark member
  rw [Bool.eq_false_iff]
  intro digit
  exact Bool.eq_false_iff.mp (extendsName_severing mark member) (extendsName_of_isDigit digit)

/-- The text does not go on with an operand in front of it. -/
def severs (rest : List Char) : Bool :=
  rest.head?.all severing.contains

section Severs

variable {rest : List Char} (severed : severs rest = true)

include severed

theorem stop_of_severs {accepted : Char → Bool}
    (refuses : ∀ mark ∈ severing, accepted mark = false) :
    rest.head?.all (fun character => !accepted character) = true := by
  cases rest with
  | nil => rfl
  | cons first others =>
      have mem : first ∈ severing := by simpa [severs] using severed
      simpa using refuses first mem

theorem takeWhile_severed {accepted : Char → Bool}
    (refuses : ∀ mark ∈ severing, accepted mark = false)
    (text : List Char) : (text ++ rest).takeWhile accepted = text.takeWhile accepted := by
  have stop := stop_of_severs severed refuses
  induction text with
  | nil =>
      cases rest with
      | nil => rfl
      | cons first others =>
          have refused : accepted first = false := by simpa using stop
          simp [refused]
  | cons first others ih => simp only [List.cons_append, List.takeWhile_cons, ih]

theorem dropWhile_severed {accepted : Char → Bool}
    (refuses : ∀ mark ∈ severing, accepted mark = false)
    (text : List Char) : (text ++ rest).dropWhile accepted = text.dropWhile accepted ++ rest := by
  have stop := stop_of_severs severed refuses
  induction text with
  | nil =>
      cases rest with
      | nil => rfl
      | cons first others =>
          have refused : accepted first = false := by simpa using stop
          simp [refused]
  | cons first others ih =>
      simp only [List.cons_append, List.dropWhile_cons, ih]
      split <;> rfl

theorem takeName_severed (text : List Char) :
    (text ++ rest).takeWhile extendsName = text.takeWhile extendsName :=
  takeWhile_severed severed extendsName_severing text

theorem dropName_severed (text : List Char) :
    (text ++ rest).dropWhile extendsName = text.dropWhile extendsName ++ rest :=
  dropWhile_severed severed extendsName_severing text

theorem takeDigits_severed (text : List Char) :
    (text ++ rest).takeWhile Char.isDigit = text.takeWhile Char.isDigit :=
  takeWhile_severed severed isDigit_severing text

theorem dropDigits_severed (text : List Char) :
    (text ++ rest).dropWhile Char.isDigit = text.dropWhile Char.isDigit ++ rest :=
  dropWhile_severed severed isDigit_severing text

theorem mem_of_severs {first : Char} {others : List Char} (same : rest = first :: others) :
    first ∈ severing := by
  subst same
  simpa [severs] using severed

theorem headAny_severed {accepted : Char → Bool}
    (refuses : ∀ mark ∈ severing, accepted mark = false)
    (text : List Char) : (text ++ rest).head?.any accepted = text.head?.any accepted := by
  cases text with
  | cons first others => rfl
  | nil =>
      cases opened : rest with
      | nil => rfl
      | cons first others => simpa using refuses first (mem_of_severs severed opened)

theorem headDigit_severed (text : List Char) :
    (text ++ rest).head?.any Char.isDigit = text.head?.any Char.isDigit :=
  headAny_severed severed isDigit_severing text

theorem headName_severed (text : List Char) :
    (text ++ rest).head?.any opensName = text.head?.any opensName :=
  headAny_severed severed opensName_severing text

namespace Word

theorem localPart_severed (text : List Char) :
    localPart (text ++ rest) = ((localPart text).1, (localPart text).2 ++ rest) := by
  match text with
  | [] =>
      cases opened : rest with
      | nil => rfl
      | cons first others =>
          have different : first ≠ ':' := by
            rintro rfl
            exact absurd (mem_of_severs severed opened) (by decide)
          simp [localPart, different]
  | [first] =>
      by_cases colon : first = ':'
      · subst colon
        cases opened : rest with
        | nil => rfl
        | cons second others =>
            have noStar : second ≠ '*' := by
              rintro rfl
              exact absurd (mem_of_severs severed opened) (by decide)
            simp [localPart, opensName_severing second (mem_of_severs severed opened)]
      · simp [localPart, colon]
  | first :: second :: more =>
      by_cases colon : first = ':'
      · subst colon
        by_cases star : second = '*'
        · subst star
          rfl
        · simp only [List.cons_append, localPart]
          split <;> simp [takeName_severed severed, dropName_severed severed]
      · simp [localPart, colon]

theorem name_severed (text : List Char) : name (text ++ rest) = ((name text).1, (name text).2 ++ rest) := by
  simp only [name, takeName_severed severed, dropName_severed severed, localPart_severed severed]

theorem fraction_severed (text : List Char) :
    fraction (text ++ rest) = ((fraction text).1, (fraction text).2 ++ rest) := by
  match text with
  | [] =>
      cases opened : rest with
      | nil => rfl
      | cons first others =>
          have different : first ≠ '.' := by
            rintro rfl
            exact absurd (mem_of_severs severed opened) (by decide)
          simp [fraction, different]
  | first :: more =>
      by_cases point : first = '.'
      · subst point
        simp only [List.cons_append, fraction, takeDigits_severed severed, dropDigits_severed severed]
      · simp [fraction, point]

theorem number_severed (text : List Char) :
    number (text ++ rest) = ((number text).1, (number text).2 ++ rest) := by
  simp only [number, takeDigits_severed severed, dropDigits_severed severed, fraction_severed severed]

omit severed in
theorem string_append {quote : Char} {text left : List Char} {word : Word}
    (closed : string quote text = some (word, left)) (rest : List Char) :
    string quote (text ++ rest) = some (word, left ++ rest) := by
  unfold string at closed ⊢
  cases found : text.dropWhile (· != quote) with
  | nil => simp [found] at closed
  | cons last others =>
      simp only [found, Option.some.injEq, Prod.mk.injEq] at closed
      obtain ⟨rfl, rfl⟩ := closed
      have lengths := congrArg List.length (List.takeWhile_append_dropWhile (p := (· != quote)) (l := text))
      rw [found, List.length_append, List.length_cons] at lengths
      have inside : (text.takeWhile (· != quote)).length ≠ text.length := by omega
      simp [List.dropWhile_append, List.takeWhile_append, found, inside]

omit severed in
theorem signs_short (previous : Option Word) :
    ∀ sign ∈ signs previous, (∃ first, sign.1 = [first]) ∨ ∃ first second, sign.1 = [first, second] := by
  simp [signs]

omit severed in
/-- The only sign that ends an operand and starts a longer sign is the dot. -/
theorem signs_dot (previous : Option Word) :
    ∀ sign ∈ signs previous, awaitsOperand (some sign.2) = false →
      ∀ longer ∈ signs previous, longer.1.length = 2 → longer.1.take 1 = sign.1 → longer.1 = ['.', '.'] := by
  unfold signs
  cases awaitsOperand previous <;> decide

theorem sign_severed {previous : Option Word} {text left : List Char} {word : Word}
    (found : sign previous text = some (word, left)) (operand : left = [] → awaitsOperand (some word) = false) :
    sign previous (text ++ rest) = some (word, left ++ rest) := by
  obtain ⟨⟨front, _⟩, chosen, same⟩ := Option.map_eq_some_iff.mp found
  simp only [Prod.mk.injEq] at same
  obtain ⟨rfl, rfl⟩ := same
  have mem := List.mem_of_find?_eq_some chosen
  have isPrefix := List.find?_some chosen
  have prefixes : ∀ sign ∈ signs previous, sign.1.isPrefixOf (text ++ rest) = sign.1.isPrefixOf text := by
    intro sign signMem
    match text with
    | [] => rcases signs_short previous _ mem with ⟨one, rfl⟩ | ⟨one, two, rfl⟩ <;> simp at isPrefix
    | [first] =>
        rcases signs_short previous _ mem with ⟨one, rfl⟩ | ⟨one, two, rfl⟩
        case inr => simp [List.isPrefixOf] at isPrefix
        obtain rfl : one = first := by simpa [List.isPrefixOf] using isPrefix
        rcases signs_short previous sign signMem with ⟨other, same⟩ | ⟨other, two, same⟩
        case inl => simp [same, List.isPrefixOf]
        by_cases starts : other = one
        case neg => simp [same, List.isPrefixOf, starts]
        have dots := signs_dot previous _ mem (operand rfl) sign signMem (by simp [same]) (by simp [same, starts])
        cases opened : rest with
        | nil => simp
        | cons next more =>
            have noDot : next ≠ '.' := by
              rintro rfl
              exact absurd (mem_of_severs severed opened) (by decide)
            simp [dots, List.isPrefixOf, noDot.symm]
    | first :: second :: more =>
        rcases signs_short previous sign signMem with ⟨one, same⟩ | ⟨one, two, same⟩ <;>
          simp [same, List.isPrefixOf]
  have bound : front.length ≤ text.length := (List.isPrefixOf_iff_prefix.mp isPrefix).length_le
  rw [sign, ← List.head?_filter, List.filter_congr prefixes, List.head?_filter, chosen]
  simp [List.drop_append_of_le_length bound]

theorem next_severed {previous : Option Word} {text left : List Char} {word : Word}
    (found : next previous text = some (word, left)) (operand : left = [] → awaitsOperand (some word) = false) :
    next previous (text ++ rest) = some (word, left ++ rest) := by
  cases text with
  | nil => simp [next] at found
  | cons first others =>
      have digit := headDigit_severed severed others
      have opens := headName_severed severed others
      have number := number_severed severed (first :: others)
      have name := name_severed severed (first :: others)
      have takeName := takeName_severed severed (first :: others)
      have dropName := dropName_severed severed (first :: others)
      simp only [List.cons_append] at number name takeName dropName
      simp only [List.cons_append, next, digit, opens] at found ⊢
      split at found
      case isTrue isQuote =>
        rw [if_pos isQuote]
        exact string_append found rest
      case isFalse noQuote =>
        rw [if_neg noQuote]
        split at found
        case isTrue isNumber =>
          rw [if_pos isNumber, number]
          cases found
          rfl
        case isFalse noNumber =>
          rw [if_neg noNumber]
          split at found
          case isTrue isName =>
            rw [if_pos isName, name, takeName, dropName]
            split at found
            case isTrue awaits =>
              rw [if_pos awaits]
              cases found
              rfl
            case isFalse after =>
              rw [if_neg after]
              split at found
              case isTrue known =>
                rw [if_pos known]
                cases found
                rfl
              case isFalse => cases found
          case isFalse noName =>
            rw [if_neg noName]
            split at found
            case isTrue isVariable =>
              rw [if_pos isVariable, name_severed severed]
              cases found
              rfl
            case isFalse noVariable =>
              rw [if_neg noVariable]
              exact sign_severed severed found operand

end Word

end Severs

/-! ## Texts in their surroundings -/

theorem Word.next_eq {previous previous' : Option Word} (same : awaitsOperand previous = awaitsOperand previous')
    (text : List Char) : next previous text = next previous' text := by
  cases text with
  | nil => rfl
  | cons first rest => simp only [next, sign, signs, same]

/-- Of the word before, it only matters whether an operand has to come next. -/
theorem Cuts.after {previous previous' : Option Word} {text : List Char} {words : List Word}
    (cuts : Cuts previous text words) (same : Word.awaitsOperand previous = Word.awaitsOperand previous') :
    Cuts previous' text words := by
  induction cuts with
  | done => exact .done previous'
  | blank space _ ih => exact .blank space (ih same)
  | word next others _ => exact .word (Word.next_eq same _ ▸ next) others

/-- After an operand, the text is cut into these words. -/
def CutsAfter (text : List Char) (words : List Word) : Prop :=
  ∀ previous, Word.awaitsOperand (some previous) = false → Cuts (some previous) text words

/-- What is cut stays cut when something comes after it, if it ends with an operand that the latter severs. -/
theorem Cuts.append {previous : Option Word} {text rest : List Char} {words others : List Word}
    (cuts : Cuts previous text words) (severed : severs rest = true) (continued : CutsAfter rest others)
    (ends : ∀ last ∈ (previous.toList ++ words).getLast?, Word.awaitsOperand (some last) = false)
    (nonempty : previous.toList ++ words ≠ []) :
    Cuts previous (text ++ rest) (words ++ others) := by
  induction cuts with
  | done previous =>
      cases previous with
      | none => exact absurd rfl nonempty
      | some word => exact continued word (ends word (by simp))
  | blank space _ ih => exact .blank space (ih ends nonempty)
  | @word previous text left word words next later ih =>
      have operand : left = [] → Word.awaitsOperand (some word) = false := by
        rintro rfl
        obtain rfl : words = [] := later.unique (.done _)
        exact ends word (by simp)
      refine .word (Word.next_severed severed next operand) (ih ?_ (by simp))
      intro last mem
      apply ends last
      rw [List.getLast?_append]
      simpa using mem

end Locator.XPath
