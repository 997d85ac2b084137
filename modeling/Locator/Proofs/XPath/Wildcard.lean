import Locator.Proofs.Path.Meaning
import Locator.Proofs.XPath.Conditions
import Locator.XPath.Condition

/-!
# Conditions on strings

What the conditions on strings stand for. The main statement is about patterns: looking for each piece as
early as possible misses no way to match the whole pattern, because the star in front of what is left can
take up whatever an earlier match leaves over.
-/

namespace Locator

open Locator.Text Locator.XPath

set_option autoImplicit false

/-! ## The language of a pattern -/

theorem anySuffix_iff {condition : List Char → Bool} {text : List Char} :
    anySuffix condition text = true ↔
      ∃ front rest, text = front ++ rest ∧ condition rest = true := by
  induction text with
  | nil =>
      simp only [anySuffix]
      constructor
      · intro holds
        exact ⟨[], [], rfl, holds⟩
      · intro given
        rcases given with ⟨front, rest, same, holds⟩
        have empty := (List.append_eq_nil_iff.mp same.symm).2
        exact empty ▸ holds
  | cons first others ih =>
      simp only [anySuffix, Bool.or_eq_true, ih]
      constructor
      · intro given
        rcases given with here | ⟨front, rest, same, holds⟩
        · exact ⟨[], first :: others, rfl, here⟩
        · exact ⟨first :: front, rest, by simp [same], holds⟩
      · intro given
        rcases given with ⟨front, rest, same, holds⟩
        cases front with
        | nil =>
            rw [List.nil_append] at same
            exact .inl (same ▸ holds)
        | cons head front =>
            simp only [List.cons_append, List.cons.injEq] at same
            exact .inr ⟨front, rest, same.2, holds⟩

theorem matchesPattern_star {pattern text : List Char} :
    matchesPattern ('*' :: pattern) text = true ↔
      ∃ front rest, text = front ++ rest ∧ matchesPattern pattern rest = true := by
  simp only [matchesPattern, if_true]
  exact anySuffix_iff

theorem matchesPattern_append {piece : List Char} (starless : '*' ∉ piece) {pattern text : List Char} :
    matchesPattern (piece ++ pattern) text = true ↔
      ∃ rest, text = piece ++ rest ∧ matchesPattern pattern rest = true := by
  induction piece generalizing text with
  | nil => simp
  | cons first piece ih =>
      simp only [List.mem_cons, not_or] at starless
      have noStar : first ≠ '*' := Ne.symm starless.1
      rw [List.cons_append]
      simp only [matchesPattern, if_neg noStar]
      cases text with
      | nil => simp
      | cons character text =>
          simp only [Bool.and_eq_true, beq_iff_eq, ih starless.2, List.cons_append, List.cons.injEq]
          constructor
          · intro given
            rcases given with ⟨rfl, rest, rfl, holds⟩
            exact ⟨rest, ⟨rfl, rfl⟩, holds⟩
          · intro given
            rcases given with ⟨rest, ⟨rfl, rfl⟩, holds⟩
            exact ⟨rfl, rest, rfl, holds⟩

theorem matchesPattern_starless {piece : List Char} (starless : '*' ∉ piece) {text : List Char} :
    matchesPattern piece text = true ↔ text = piece := by
  have matched : matchesPattern (piece ++ []) text = true ↔ _ := matchesPattern_append starless
  rw [List.append_nil] at matched
  rw [matched]
  simp [matchesPattern]

theorem matchesPattern_star_star {pattern text : List Char} :
    matchesPattern ('*' :: '*' :: pattern) text = matchesPattern ('*' :: pattern) text := by
  rw [Bool.eq_iff_iff, matchesPattern_star, matchesPattern_star]
  constructor
  · intro given
    rcases given with ⟨front, rest, rfl, inner⟩
    obtain ⟨front', rest', rfl, holds⟩ := matchesPattern_star.mp inner
    exact ⟨front ++ front', rest', by simp, holds⟩
  · intro given
    rcases given with ⟨front, rest, rfl, holds⟩
    exact ⟨front, rest, rfl, matchesPattern_star.mpr ⟨[], rest, rfl, holds⟩⟩

/-- A star and a last piece: the text ends with the piece. -/
theorem matchesPattern_last {piece : List Char} (starless : '*' ∉ piece) {text : List Char} :
    matchesPattern ('*' :: piece) text = piece.isSuffixOf text := by
  rw [Bool.eq_iff_iff, matchesPattern_star, List.isSuffixOf_iff_suffix]
  constructor
  · intro given
    rcases given with ⟨front, rest, rfl, holds⟩
    rw [matchesPattern_starless starless] at holds
    exact ⟨front, by rw [holds]⟩
  · intro given
    rcases given with ⟨front, same⟩
    exact ⟨front, piece, same.symm, (matchesPattern_starless starless).mpr rfl⟩

/-- A star, a piece and another star: the piece can be taken where it occurs first. -/
theorem matchesPattern_middle {piece : List Char} (starless : '*' ∉ piece) {pattern text : List Char} :
    matchesPattern ('*' :: (piece ++ '*' :: pattern)) text =
      (hasPart text piece &&
        matchesPattern ('*' :: pattern) ((afterFirst? piece text).getD [])) := by
  rw [Bool.eq_iff_iff, Bool.and_eq_true, matchesPattern_star]
  constructor
  · intro given
    rcases given with ⟨front, rest, same, inner⟩
    obtain ⟨tail, rfl, holds⟩ := (matchesPattern_append starless).mp inner
    obtain ⟨front', rest', rfl, match'⟩ := matchesPattern_star.mp holds
    have occurs : text = front ++ piece ++ (front' ++ rest') := by rw [same]; simp
    refine ⟨hasPart_iff.mpr ⟨front, front' ++ rest', occurs⟩, ?_⟩
    cases found : afterFirst? piece text with
    | none => exact absurd occurs (afterFirst?_eq_none_iff.mp found front _)
    | some after =>
        obtain ⟨least, cutting, shortest⟩ := afterFirst?_eq_some_iff.mp found
        have shorter := shortest front (front' ++ rest') occurs
        -- What follows the later occurrence is a suffix of what follows the first one.
        have suffix : front' ++ rest' <:+ after := by
          refine List.suffix_of_suffix_length_le (?_ : front' ++ rest' <:+ text) ?_ ?_
          · exact ⟨front ++ piece, occurs.symm⟩
          · exact ⟨least ++ piece, cutting.symm⟩
          · have sizes := congrArg List.length (cutting.symm.trans occurs)
            simp only [List.length_append] at sizes ⊢
            omega
        rcases suffix with ⟨skipped, rfl⟩
        exact matchesPattern_star.mpr ⟨skipped ++ front', rest', by simp, match'⟩
  · intro given
    rcases given with ⟨occurs, holds⟩
    cases found : afterFirst? piece text with
    | none => simp [hasPart, found] at occurs
    | some after =>
        obtain ⟨front, cutting, -⟩ := afterFirst?_eq_some_iff.mp found
        rw [found, Option.getD_some] at holds
        refine ⟨front, piece ++ after, by rw [cutting]; simp, ?_⟩
        exact (matchesPattern_append starless).mpr ⟨after, rfl, holds⟩

/-- A first piece and a star: the text starts with the piece. -/
theorem matchesPattern_first {piece : List Char} (starless : '*' ∉ piece) {pattern text : List Char} :
    matchesPattern (piece ++ '*' :: pattern) text =
      (piece.isPrefixOf text && matchesPattern ('*' :: pattern) (text.drop piece.length)) := by
  rw [Bool.eq_iff_iff, Bool.and_eq_true, matchesPattern_append starless, List.isPrefixOf_iff_prefix]
  constructor
  · intro given
    rcases given with ⟨rest, rfl, holds⟩
    exact ⟨⟨rest, rfl⟩, by simpa using holds⟩
  · intro given
    rcases given with ⟨⟨rest, rfl⟩, holds⟩
    exact ⟨rest, rfl, by simpa using holds⟩

/-! ## Expressions for strings -/

namespace XPath

variable {document : Document}

/-- At every element and text node the expression has a value that is read as the text. -/
def Expr.ReadAs (document : Document) (expression : Expr) (text : Address → List Char) : Prop :=
  ∀ address ∈ document.addresses, ∀ position size, ∃ value,
    expression.eval document ⟨.node address, position, size⟩ = some value ∧
      value.string document = text address

/-- The value is read as the text, and it equals a string just when the text does. A set of several nodes
is read as its first one but may equal several strings. -/
def Expr.HasText (document : Document) (expression : Expr) (text : Address → List Char) : Prop :=
  ∀ address ∈ document.addresses, ∀ position size, ∃ value,
    expression.eval document ⟨.node address, position, size⟩ = some value ∧
      value.string document = text address ∧
        ∀ other, value.equals? document (.characters other) = some (text address == other)

/-- The same in one context, which need not be an element or a text node. -/
def Expr.IsText (document : Document) (context : Context) (expression : Expr) (text : List Char) : Prop :=
  ∃ value, expression.eval document context = some value ∧ value.string document = text ∧
    ∀ other, value.equals? document (.characters other) = some (text == other)

theorem Expr.HasText.isText {expression : Expr} {text : Address → List Char}
    (hasText : expression.HasText document text) {address : Address}
    (member : address ∈ document.addresses) (position size : Nat) :
    expression.IsText document ⟨.node address, position, size⟩ (text address) :=
  hasText address member position size

theorem Expr.hasText_of_characters {expression : Expr} {text : Address → List Char}
    (evaluated : ∀ address ∈ document.addresses, ∀ position size,
      expression.eval document ⟨.node address, position, size⟩ =
        some (.characters (text address))) :
    expression.HasText document text := by
  intro address member position size
  exact ⟨_, evaluated address member position size, rfl, fun _ => rfl⟩

theorem isText_context (context : Context) :
    Expr.context.IsText document context (document.stringValue context.site) := by
  refine ⟨_, rfl, ?_, ?_⟩
  · simp [Value.string]
  · intro other
    simp [Value.equals?]

theorem hasText_context : Expr.context.HasText document document.words := by
  intro address _ position size
  exact isText_context ⟨.node address, position, size⟩

theorem eval_contains {context : Context} {subject : Expr} {found : Value}
    (evaluated : subject.eval document context = some found) (value : String) :
    (XPath.contains subject value).eval document context =
      some (.truth (hasPart (found.string document) value.toList)) := by
  simp [XPath.contains, Expr.eval, evalAll, evaluated, applyFunction, Value.string_characters]

theorem eval_hasWord {context : Context} {subject : Expr} {found : Value}
    (evaluated : subject.eval document context = some found) (word : String) :
    (XPath.hasWord subject word).eval document context =
      some (.truth (wordsHave (found.string document) word)) := by
  simp [XPath.hasWord, Expr.eval, evalAll, evaluated, applyFunction, Value.string_characters, wordsHave]

theorem Expr.ReadAs.contains {subject : Expr} {text : Address → List Char}
    (readAs : subject.ReadAs document text) (value : String) :
    (XPath.contains subject value).Means document fun address =>
      hasPart (text address) value.toList := by
  apply Expr.means_of_truth
  intro address member position size
  obtain ⟨found, evaluated, string⟩ := readAs address member position size
  rw [eval_contains evaluated, string]

theorem Expr.ReadAs.hasWord {subject : Expr} {text : Address → List Char}
    (readAs : subject.ReadAs document text) (word : String) :
    (XPath.hasWord subject word).Means document fun address => wordsHave (text address) word := by
  apply Expr.means_of_truth
  intro address member position size
  obtain ⟨found, evaluated, string⟩ := readAs address member position size
  rw [eval_hasWord evaluated, string]

section Context

variable {context : Context} {subject : Expr} {text : List Char}

theorem Expr.isText_of_characters
    (evaluated : subject.eval document context = some (.characters text)) :
    subject.IsText document context text :=
  ⟨_, evaluated, rfl, fun _ => rfl⟩

theorem Expr.IsText.equals_literal (isText : subject.IsText document context text) (value : String) :
    (Expr.equals subject (.literal value)).eval document context =
      some (.truth (text == value.toList)) := by
  obtain ⟨found, evaluated, -, equal⟩ := isText
  simp [Expr.equals, Expr.eval, evaluated, applyOperator, equal]

theorem Expr.IsText.contains (isText : subject.IsText document context text) (value : String) :
    (XPath.contains subject value).eval document context =
      some (.truth (hasPart text value.toList)) := by
  obtain ⟨found, evaluated, string, -⟩ := isText
  rw [eval_contains evaluated, string]

theorem Expr.IsText.startsWith (isText : subject.IsText document context text) (value : String) :
    (XPath.startsWith subject value).eval document context =
      some (.truth (value.toList.isPrefixOf text)) := by
  obtain ⟨found, evaluated, string, -⟩ := isText
  simp [XPath.startsWith, Expr.eval, evalAll, evaluated, applyFunction, string, Value.string_characters]

theorem Expr.IsText.substring (isText : subject.IsText document context text) (count : Nat) :
    (Expr.call .substring [subject, .number (count + 1)]).IsText document context (text.drop count) := by
  obtain ⟨found, evaluated, string, -⟩ := isText
  have place : ((count + 1 : Nat) : Int) - 1 = count := by omega
  apply Expr.isText_of_characters
  simp only [Expr.eval, evalAll, evaluated, applyFunction, string, Option.bind_eq_bind,
    Option.bind_some, Option.pure_def]
  rw [place, Int.toNat_natCast]

theorem Expr.IsText.substringAfter (isText : subject.IsText document context text) (value : String) :
    (Expr.call .substringAfter [subject, .literal value]).IsText document context
      ((afterFirst? value.toList text).getD []) := by
  obtain ⟨found, evaluated, string, -⟩ := isText
  apply Expr.isText_of_characters
  simp [Expr.eval, evalAll, evaluated, applyFunction, string, Value.string_characters]

/-- The characters from the place on where the value would start are the value. A value longer than the text
would start before it, and then all of the text is compared. -/
theorem Expr.IsText.endsWith (isText : subject.IsText document context text) (value : String) :
    (XPath.endsWith subject value).eval document context =
      some (.truth (value.toList.isSuffixOf text)) := by
  obtain ⟨found, evaluated, string, -⟩ := isText
  have place : ((text.length : Int) - (value.toList.length : Nat) + ((1 : Nat) : Int) - 1).toNat =
      text.length - value.toList.length := by omega
  simp only [XPath.endsWith, Expr.equals, Expr.eval, evalAll, evaluated, applyFunction, applyOperator,
    Value.numbers?, Value.number?, string, Option.bind_eq_bind, Option.bind_some, Option.pure_def,
    Option.map_some, place, Value.equals?, Option.some.injEq, Value.truth.injEq]
  rw [Bool.eq_iff_iff, beq_iff_eq, List.isSuffixOf_iff_suffix, List.suffix_iff_eq_drop]
  exact eq_comm

/-! ## Patterns -/

theorem intercalate_cons {separator piece : List Char} {pieces : List (List Char)}
    (nonempty : pieces ≠ []) :
    separator.intercalate (piece :: pieces) = piece ++ (separator ++ separator.intercalate pieces) := by
  cases pieces with
  | nil => exact absurd rfl nonempty
  | cons next pieces => simp [List.intercalate]

/-- The conditions for the pieces after the first star hold together when the rest of the text matches the
rest of the pattern, its star included. -/
theorem Expr.IsText.wildcardRest (isText : subject.IsText document context text)
    (pieces : List (List Char)) (nonempty : pieces ≠ []) (starless : ∀ piece ∈ pieces, '*' ∉ piece) :
    ∃ truths : List Bool,
      evalAll document (XPath.wildcardRest subject (pieces.map String.ofList)) context =
          some (truths.map .truth) ∧
        truths.all id = matchesPattern ('*' :: ['*'].intercalate pieces) text := by
  induction pieces generalizing subject text with
  | nil => exact absurd rfl nonempty
  | cons piece pieces ih =>
      have clean : '*' ∉ piece := starless piece (by simp)
      have written (some : piece ≠ []) : (String.ofList piece).isEmpty = false := by simp [some]
      cases pieces with
      | nil =>
          have whole : ['*'].intercalate [piece] = piece := by simp [List.intercalate]
          simp only [List.map_cons, List.map_nil, XPath.wildcardRest, whole, matchesPattern_last clean]
          by_cases empty : piece = []
          · subst empty
            exact ⟨[], rfl, by simp⟩
          · rw [written empty]
            have last := evalAll_cons (isText.endsWith (String.ofList piece)) (rfl : evalAll document [] context = _)
            rw [String.toList_ofList] at last
            exact ⟨[piece.isSuffixOf text], last, by simp⟩
      | cons next pieces =>
          have others : next :: pieces ≠ [] := by simp
          have cleanOthers : ∀ piece ∈ next :: pieces, '*' ∉ piece := by
            intro other member
            exact starless other (List.mem_cons_of_mem piece member)
          rw [intercalate_cons others, List.map_cons]
          simp only [XPath.wildcardRest, List.map_cons]
          rw [← List.map_cons]
          by_cases empty : piece = []
          · subst empty
            simpa [matchesPattern_star_star] using ih isText others cleanOthers
          · obtain ⟨truths, evaluated, all⟩ :=
              ih (isText.substringAfter (String.ofList piece)) others cleanOthers
            have first := isText.contains (String.ofList piece)
            rw [String.toList_ofList] at first all
            rw [written empty]
            simp only [Bool.false_eq_true, if_false, List.singleton_append,
              matchesPattern_middle clean]
            exact ⟨hasPart text piece :: truths, evalAll_cons first evaluated, by simp [all]⟩

/-- The condition for a pattern is true when the subject matches it. -/
theorem Expr.IsText.wildcard (isText : subject.IsText document context text) (pattern : String) :
    (XPath.wildcard subject pattern).eval document context =
      some (.truth (matchesPattern pattern.toList text)) := by
  have joined := intercalate_cut '*' pattern.toList
  have starless : ∀ piece ∈ cut '*' pattern.toList, '*' ∉ piece := fun piece member =>
    separator_not_mem_of_mem_cut member
  unfold XPath.wildcard
  match pieces : cut '*' pattern.toList with
  | [] => exact absurd pieces (cut_ne_nil '*' pattern.toList)
  | [whole] =>
      rw [pieces] at joined starless
      have same : pattern.toList = whole := by simpa [List.intercalate] using joined.symm
      have clean : '*' ∉ pattern.toList := by
        rw [same]
        exact starless whole (by simp)
      have truth : (text == pattern.toList) = matchesPattern pattern.toList text := by
        rw [Bool.eq_iff_iff, matchesPattern_starless clean, beq_iff_eq]
      exact truth ▸ isText.equals_literal pattern
  | first :: next :: others =>
      rw [pieces] at joined starless
      have clean : '*' ∉ first := starless first (by simp)
      have cleanOthers : ∀ piece ∈ next :: others, '*' ∉ piece := by
        intro piece member
        exact starless piece (List.mem_cons_of_mem first member)
      rw [intercalate_cons (by simp)] at joined
      rw [← joined]
      simp only [List.map_cons, List.singleton_append]
      by_cases empty : first = []
      · subst empty
        obtain ⟨truths, evaluated, all⟩ := isText.wildcardRest (next :: others) (by simp) cleanOthers
        rw [List.nil_append, ← all]
        exact eval_joined_and evaluated
      · have written : (String.ofList first).isEmpty = false := by
          simp [empty]
        obtain ⟨truths, evaluated, all⟩ :=
          (isText.substring (String.ofList first).toList.length).wildcardRest (next :: others) (by simp)
            cleanOthers
        have start := isText.startsWith (String.ofList first)
        rw [String.toList_ofList] at start evaluated all
        rw [written, if_neg Bool.false_ne_true, matchesPattern_first clean, ← all, String.toList_ofList]
        have both : evalAll document (_ :: _) context =
            some ((first.isPrefixOf text :: truths).map .truth) := evalAll_cons start evaluated
        exact eval_joined_and both

end Context

/-! ## At every element and text node -/

section Everywhere

variable {subject : Expr} {text : Address → List Char}

theorem Expr.HasText.equals_literal (hasText : subject.HasText document text) (value : String) :
    (Expr.equals subject (.literal value)).Means document fun address =>
      text address == value.toList :=
  means_of_truth fun _ member position size => (hasText.isText member position size).equals_literal value

theorem Expr.HasText.contains (hasText : subject.HasText document text) (value : String) :
    (XPath.contains subject value).Means document fun address =>
      hasPart (text address) value.toList :=
  means_of_truth fun _ member position size => (hasText.isText member position size).contains value

theorem Expr.HasText.startsWith (hasText : subject.HasText document text) (value : String) :
    (XPath.startsWith subject value).Means document fun address =>
      value.toList.isPrefixOf (text address) :=
  means_of_truth fun _ member position size => (hasText.isText member position size).startsWith value

theorem Expr.HasText.endsWith (hasText : subject.HasText document text) (value : String) :
    (XPath.endsWith subject value).Means document fun address =>
      value.toList.isSuffixOf (text address) :=
  means_of_truth fun _ member position size => (hasText.isText member position size).endsWith value

theorem Expr.HasText.wildcard (hasText : subject.HasText document text) (pattern : String) :
    (XPath.wildcard subject pattern).Means document fun address =>
      matchesPattern pattern.toList (text address) :=
  means_of_truth fun _ member position size => (hasText.isText member position size).wildcard pattern

end Everywhere

end XPath

end Locator
