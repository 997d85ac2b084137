import Locator.Proofs.XPath.Spelling

/-!
# Reading string expressions

A reader of string expressions that knows nothing of how they are written: a literal in either kind of quotes, or
a call of `concat` with two literals or more. The written form of a string is read back whole, whatever comes
after it, so a string cannot end its own quotes.
-/

namespace Locator.XPath

open Locator.Text

set_option autoImplicit false

/-- The text up to the next quote of its kind, and what comes after that quote. -/
def readQuoted (quote : Char) : List Char → Option (List Char × List Char)
  | [] => none
  | first :: rest =>
      if first = quote then some ([], rest)
      else (readQuoted quote rest).map fun (value, unread) => (first :: value, unread)

def readLiteral : List Char → Option (List Char × List Char)
  | [] => none
  | first :: rest => if first = apostrophe ∨ first = quotation then readQuoted first rest else none

theorem readQuoted_shorter {quote : Char} {text value unread : List Char}
    (read : readQuoted quote text = some (value, unread)) : unread.length < text.length := by
  induction text generalizing value with
  | nil => exact absurd read (by simp [readQuoted])
  | cons first rest ih =>
      simp only [readQuoted] at read
      split at read
      · cases read
        simp
      · obtain ⟨⟨inner, others⟩, readRest, same⟩ := Option.map_eq_some_iff.mp read
        cases same
        exact Nat.lt_succ_of_lt (ih readRest)

theorem readLiteral_shorter {text value unread : List Char}
    (read : readLiteral text = some (value, unread)) : unread.length < text.length := by
  cases text with
  | nil => exact absurd read (by simp [readLiteral])
  | cons first rest =>
      simp only [readLiteral] at read
      split at read
      · have shorter := readQuoted_shorter read
        simp only [List.length_cons]
        omega
      · exact absurd read (by simp)

/-- Literals between commas, up to the closing parenthesis. -/
def readArguments (text : List Char) : Option (List (List Char) × List Char) :=
  match _ : readLiteral (text.dropWhile isSpace) with
  | none => none
  | some (value, behind) =>
      match _ : behind.dropWhile isSpace with
      | ')' :: unread => some ([value], unread)
      | ',' :: rest => (readArguments rest).map fun (values, unread) => (value :: values, unread)
      | _ => none
termination_by text.length
decreasing_by
  rename_i read separated
  have literal := readLiteral_shorter read
  have blanks := (List.dropWhile_suffix isSpace (l := text)).length_le
  have blanks' := (List.dropWhile_suffix isSpace (l := behind)).length_le
  rw [separated, List.length_cons] at blanks'
  omega

/-- A call takes two arguments or more. -/
def readCall (text : List Char) : Option (List Char × List Char) :=
  match text.dropWhile isSpace with
  | '(' :: rest =>
      match readArguments rest with
      | some (first :: second :: others, unread) => some ((first :: second :: others).flatten, unread)
      | _ => none
  | _ => none

/-- The value of the string expression at the front of a text, and the text after it. -/
def readString : List Char → Option (List Char × List Char)
  | 'c' :: 'o' :: 'n' :: 'c' :: 'a' :: 't' :: rest => readCall rest
  | text => readLiteral text

/-! ## Reading what is written -/

theorem readQuoted_append {quote : Char} {value : List Char} (inside : quote ∉ value)
    (rest : List Char) : readQuoted quote (value ++ quote :: rest) = some (value, rest) := by
  induction value with
  | nil => simp [readQuoted]
  | cons first value ih =>
      simp only [List.mem_cons, not_or] at inside
      rw [List.cons_append, readQuoted, if_neg (Ne.symm inside.1), ih inside.2]
      rfl

/-- A literal is read to its closing quote, and no blank is skipped in front of it. -/
theorem readLiteral_append {quote : Char} (isQuote : quote = apostrophe ∨ quote = quotation)
    {value : List Char} (inside : quote ∉ value) (rest : List Char) :
    readLiteral ((quote :: (value ++ quote :: rest)).dropWhile isSpace) = some (value, rest) := by
  have visible : isSpace quote = false := by
    rcases isQuote with rfl | rfl <;> rfl
  rw [List.dropWhile_cons_of_neg (by simp [visible]), readLiteral, if_pos isQuote]
  exact readQuoted_append inside rest

theorem readArguments_read {text value behind : List Char}
    (read : readLiteral (text.dropWhile isSpace) = some (value, behind)) :
    readArguments text =
      match behind.dropWhile isSpace with
      | ')' :: unread => some ([value], unread)
      | ',' :: rest => (readArguments rest).map fun (values, unread) => (value :: values, unread)
      | _ => none := by
  rw [readArguments]
  split
  · rename_i unreadable
    exact absurd (read.symm.trans unreadable) (by simp)
  · rename_i value' behind' read'
    cases read.symm.trans read'
    split <;> simp_all

theorem readArguments_blank (text : List Char) : readArguments (' ' :: text) = readArguments text := by
  rw [readArguments, readArguments]
  rfl

theorem readArguments_closing {quote : Char} (isQuote : quote = apostrophe ∨ quote = quotation)
    {value : List Char} (inside : quote ∉ value) (rest : List Char) :
    readArguments (quote :: (value ++ quote :: ')' :: rest)) = some ([value], rest) := by
  rw [readArguments_read (readLiteral_append isQuote inside _)]
  rfl

theorem readArguments_comma {quote : Char} (isQuote : quote = apostrophe ∨ quote = quotation)
    {value : List Char} (inside : quote ∉ value) (rest : List Char) :
    readArguments (quote :: (value ++ quote :: ',' :: ' ' :: rest)) =
      (readArguments rest).map fun (values, unread) => (value :: values, unread) := by
  rw [readArguments_read (readLiteral_append isQuote inside _), ← readArguments_blank rest]
  rfl

/-- Between two pieces stands an apostrophe in double quotes, an argument of its own. -/
theorem readArguments_piece {piece : List Char} (inside : apostrophe ∉ piece) (rest : List Char) :
    readArguments (apostrophe :: (piece ++ apostrophe :: ", \"'\", ".toList ++ rest)) =
      (readArguments rest).map fun (values, unread) => (piece :: [apostrophe] :: values, unread) := by
  have quote := readArguments_comma (.inr rfl) (by decide : quotation ∉ [apostrophe]) rest
  have first := readArguments_comma (.inl rfl) inside
    (quotation :: ([apostrophe] ++ quotation :: ',' :: ' ' :: rest))
  rw [quote, Option.map_map] at first
  simpa [apostrophe, quotation, Function.comp_def] using first

theorem readArguments_join (pieces : List (List Char)) (nonempty : pieces ≠ [])
    (clean : ∀ piece ∈ pieces, apostrophe ∉ piece) (rest : List Char) :
    readArguments
        ((join ", \"'\", " (pieces.map fun piece => singleQuoted (String.ofList piece))).toList ++
          ')' :: rest) =
      some (pieces.intersperse [apostrophe], rest) := by
  induction pieces with
  | nil => exact absurd rfl nonempty
  | cons piece pieces ih =>
      have here : apostrophe ∉ piece := clean piece (by simp)
      cases pieces with
      | nil =>
          have last := readArguments_closing (.inl rfl) here rest
          simpa [join, singleQuoted, apostrophe] using last
      | cons next others =>
          have later := ih (by simp) fun other member => clean other (List.mem_cons_of_mem piece member)
          have first := readArguments_piece here
            ((join ", \"'\", "
              ((next :: others).map fun piece => singleQuoted (String.ofList piece))).toList ++ ')' :: rest)
          rw [later] at first
          simpa [join, singleQuoted, apostrophe] using first

theorem readString_call {arguments : String} {rest first second unread : List Char}
    {others : List (List Char)}
    (read : readArguments (arguments.toList ++ ')' :: rest) = some (first :: second :: others, unread)) :
    readString (("concat(" ++ arguments ++ ")").toList ++ rest) =
      some ((first :: second :: others).flatten, unread) := by
  have text : ("concat(" ++ arguments ++ ")").toList ++ rest =
      'c' :: 'o' :: 'n' :: 'c' :: 'a' :: 't' :: '(' :: (arguments.toList ++ ')' :: rest) := by simp
  rw [text, readString, readCall]
  simp [isSpace, read]

/-- The written form of a string is read whole, and nothing after it. -/
theorem readString_literal (value : String) (rest : List Char) :
    readString ((literal value).toList ++ rest) = some (value.toList, rest) := by
  unfold literal
  by_cases single : apostrophe ∈ value.toList
  · rw [if_neg (not_not_intro single)]
    by_cases double : quotation ∈ value.toList
    · rw [if_neg (not_not_intro double)]
      have read := readArguments_join (cut apostrophe value.toList) (cut_ne_nil _ _)
        (fun piece member => separator_not_mem_of_mem_cut member) rest
      have whole := intercalate_cut apostrophe value.toList
      have several := length_cut single
      -- An apostrophe makes two pieces, so the call has arguments enough.
      match pieces : cut apostrophe value.toList with
      | [] => exact absurd pieces (cut_ne_nil _ _)
      | [piece] => exact absurd several (by simp [pieces])
      | first :: next :: others =>
          rw [pieces] at read whole
          rw [readString_call read]
          exact congrArg (fun text => some (text, rest)) whole
    · rw [if_pos double]
      have read := readLiteral_append (.inr rfl) double rest
      simpa [doubleQuoted, quotation, readString, isSpace] using read
  · rw [if_pos single]
    have read := readLiteral_append (.inl rfl) single rest
    simpa [singleQuoted, apostrophe, readString, isSpace] using read

/-- The written form of a string can be told from whatever comes after it. -/
theorem literal_append_inj {value other : String} {rest rest' : List Char}
    (same : (literal value).toList ++ rest = (literal other).toList ++ rest') : value = other ∧ rest = rest' := by
  have read := readString_literal value rest
  rw [same, readString_literal other rest', Option.some.injEq, Prod.mk.injEq] at read
  exact ⟨String.toList_inj.mp read.1.symm, read.2.symm⟩

/-- The written form of a string is a string expression of XPath 1.0 with the string as its value. Whatever
comes after it, the reader takes this much and no more, so the string and the text after it are the only ones
that are written so. -/
theorem literal_reads_back (value rest : String) :
    readString (literal value ++ rest).toList = some (value.toList, rest.toList) ∧
    (∃ tokens, Lexes none (literal value).toList tokens ∧ Derives (.primary (spell value)) tokens ∧
      ∀ document context, (spell value).eval document context = some (.characters value.toList)) ∧
    (∀ other, literal value = literal other ↔ value = other) ∧
    ∀ other rest', literal value ++ rest = literal other ++ rest' ↔ value = other ∧ rest = rest' := by
  have delimited (other rest rest' : String) (same : literal value ++ rest = literal other ++ rest') :
      value = other ∧ rest = rest' := by
    have texts := congrArg String.toList same
    rw [String.toList_append, String.toList_append] at texts
    obtain ⟨values, rests⟩ := literal_append_inj texts
    exact ⟨values, String.toList_inj.mp rests⟩
  obtain ⟨tokens, renders, derives⟩ := renders_literal value
  refine ⟨?_, ⟨tokens, renders.whole, derives, fun document => eval_spell value⟩, ?_, ?_⟩
  · rw [String.toList_append]
    exact readString_literal value rest.toList
  · intro other
    constructor
    · intro same
      exact (delimited other "" "" (by rw [same])).1
    · rintro rfl
      rfl
  · intro other rest'
    constructor
    · exact delimited other rest rest'
    · rintro ⟨rfl, rfl⟩
      rfl

end Locator.XPath
