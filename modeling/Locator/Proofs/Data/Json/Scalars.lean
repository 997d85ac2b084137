import Locator.Data.Json.Reader
import Locator.Data.Json.Writer
import Locator.Proofs.Text.Numerals
import Mathlib.Data.List.TakeDrop

/-!
# Texts and whole numbers read back from JSON

What is written for a text or a whole number is read back as it was, whatever follows a text, and whatever
cannot be more of the number follows a number.
-/

namespace Locator.Data.Json

open Locator.Text

set_option autoImplicit false

/-! ## Texts -/

/-- The part of a text that an escaped character is read as. -/
def pieceOf (character : Char) : Piece :=
  if character.toNat < 0x20 ∧ character ∉ ['\n', '\r', '\t', '\x08', '\x0c'] then .unit character.toNat
  else .char character

theorem numeral?_hexDigits :
    ∀ code < 0x20, numeral? 16 ['0', '0', hexDigit (code / 16), hexDigit (code % 16)] = some code := by
  decide

theorem readPieces_escape (character : Char) (rest : List Char) :
    readPieces (escape character ++ rest) =
      (readPieces rest).map fun read => (pieceOf character :: read.1, read.2) := by
  have letter (letter : Char) (notUnit : letter ≠ 'u') (character : Char)
      (known : escaped? letter = some character) (whole : pieceOf character = .char character) :
      readPieces ('\\' :: letter :: rest) =
        (readPieces rest).map fun read => (pieceOf character :: read.1, read.2) := by
    cases read : readPieces rest <;> simp [readPieces, notUnit, known, whole, read]
  unfold escape
  split
  case isTrue same => exact same ▸ letter '"' (by decide) _ rfl (by decide)
  split
  case isTrue same => exact same ▸ letter '\\' (by decide) _ rfl (by decide)
  split
  case isTrue same => exact same ▸ letter 'n' (by decide) _ rfl (by decide)
  split
  case isTrue same => exact same ▸ letter 'r' (by decide) _ rfl (by decide)
  split
  case isTrue same => exact same ▸ letter 't' (by decide) _ rfl (by decide)
  split
  case isTrue same => exact same ▸ letter 'b' (by decide) _ rfl (by decide)
  split
  case isTrue same => exact same ▸ letter 'f' (by decide) _ rfl (by decide)
  rename_i notQuote notBackslash notLine notReturn notTab notBack notFeed
  split
  case isTrue control =>
    have unit : pieceOf character = .unit character.toNat := by
      simp [pieceOf, control, notLine, notReturn, notTab, notBack, notFeed]
    have code := numeral?_hexDigits character.toNat control
    cases read : readPieces rest <;> simp [readPieces, code, unit, read]
  case isFalse printable =>
    have whole : pieceOf character = .char character := by simp [pieceOf, printable]
    cases read : readPieces rest <;> simp [readPieces, notBackslash, printable, whole, read]

theorem readPieces_escapes (content rest : List Char) :
    readPieces (content.flatMap escape ++ '"' :: rest) = some (content.map pieceOf, rest) := by
  induction content with
  | nil => simp [readPieces]
  | cons character others ih =>
      rw [List.flatMap_cons, List.append_assoc, readPieces_escape, ih]
      rfl

theorem assemble_pieceOf (character : Char) (others : List Piece) :
    assemble (pieceOf character :: others) = (assemble others).map (character :: ·) := by
  unfold pieceOf
  split
  case isTrue control =>
    have low : isHighSurrogate character.toNat = false ∧ isLowSurrogate character.toNat = false := by
      simp only [isHighSurrogate, isLowSurrogate, Bool.and_eq_false_iff, decide_eq_false_iff_not]
      omega
    cases others with
    | nil => simp [assemble, low]
    | cons next others => cases next <;> simp [assemble, low]
  case isFalse => rfl

theorem assemble_pieces (content : List Char) : assemble (content.map pieceOf) = some content := by
  induction content with
  | nil => rfl
  | cons character others ih => rw [List.map_cons, assemble_pieceOf, ih, Option.map_some]

theorem toList_quote (content : String) :
    (quote content).toList = '"' :: (content.toList.flatMap escape ++ ['"']) := by
  simp [quote]

theorem readText_quote (content : String) (rest : List Char) :
    readText (content.toList.flatMap escape ++ '"' :: rest) = some (.text content, rest) := by
  simp [readText, readPieces_escapes, assemble_pieces]

/-! ## Whole numbers -/

/-- No more of a number follows. -/
def EndsNumber (rest : List Char) : Prop :=
  ∀ character ∈ rest.head?, character.isDigit = false ∧ character ∉ ['.', 'e', 'E']

theorem readDigits_append {digits rest : List Char} (all : ∀ digit ∈ digits, digit.isDigit = true)
    (ends : EndsNumber rest) : readDigits (digits ++ rest) = (digits, rest) := by
  rw [readDigits, List.span_eq_takeWhile_dropWhile, List.takeWhile_append_of_pos all,
    List.dropWhile_append_of_pos all]
  cases rest with
  | nil => simp
  | cons first others =>
      have other : first.isDigit = false := (ends first (by simp)).1
      simp [other]

theorem le_ofDigitChars (number : Nat) (digits : List Char) : number ≤ Nat.ofDigitChars 10 digits number := by
  induction digits generalizing number with
  | nil => exact Nat.le_refl _
  | cons digit digits ih =>
      rw [Nat.ofDigitChars_cons]
      have grows := ih (10 * number + (digit.toNat - '0'.toNat))
      omega

theorem significant_eq {digits : List Char} (all : ∀ digit ∈ digits, digit.isDigit = true) {number : Nat}
    (fits : Nat.ofDigitChars 10 digits number ≤ maxUnsigned64) :
    significant number digits = (Nat.ofDigitChars 10 digits number, 0) := by
  induction digits generalizing number with
  | nil => rfl
  | cons digit digits ih =>
      obtain ⟨isDigit, others⟩ := List.forall_mem_cons.mp all
      have value := digit?_of_isDigit isDigit
      rw [Nat.ofDigitChars_cons] at fits ⊢
      have grows := le_ofDigitChars (10 * number + (digit.toNat - '0'.toNat)) digits
      have longer : append? number digit = some (10 * number + (digit.toNat - '0'.toNat)) := by
        simp only [append?, value]
        rw [Nat.mul_comm 10 number] at grows fits ⊢
        rw [if_pos (Nat.le_trans grows fits)]
      simp only [significant, longer]
      exact ih others fits

theorem toDigits_head {magnitude : Nat} (positive : 0 < magnitude) :
    (Nat.toDigits 10 magnitude).head? ≠ some '0' := by
  induction magnitude using Nat.strongRecOn with
  | ind magnitude ih =>
      rw [Nat.toDigits_eq_if (by decide)]
      split
      case isTrue =>
        have notZero : Nat.digitChar magnitude ≠ '0' := fun zero => by
          rw [Nat.digitChar_eq_zero] at zero
          omega
        simpa using notZero
      case isFalse large =>
        have shorter := ih (magnitude / 10) (by omega) (by omega)
        rw [List.head?_append]
        cases front : (Nat.toDigits 10 (magnitude / 10)).head? with
        | none => exact absurd (List.head?_eq_none_iff.mp front) Nat.toDigits_ne_nil
        | some first =>
            rw [front] at shorter
            exact shorter

/-- Whole numbers that fit 64 bits under their sign. There is no negative zero among them. -/
def IsWhole (negative : Bool) (magnitude : Nat) : Prop :=
  if negative then 0 < magnitude ∧ magnitude ≤ minSigned64.natAbs else magnitude ≤ maxUnsigned64

theorem readFraction_ends {rest : List Char} (ends : EndsNumber rest) :
    readFraction rest = some (none, rest) := by
  cases rest with
  | nil => rfl
  | cons first others =>
      have other : first ∉ ['.', 'e', 'E'] := (ends first (by simp)).2
      simp only [List.mem_cons, not_or] at other
      simp [readFraction, other]

theorem readExponent_ends {rest : List Char} (ends : EndsNumber rest) :
    readExponent rest = some (none, rest) := by
  cases rest with
  | nil => rfl
  | cons first others =>
      have other : first ∉ ['.', 'e', 'E'] := (ends first (by simp)).2
      simp only [List.mem_cons, not_or] at other
      simp [readExponent, other]

theorem number_toDigits {negative : Bool} {magnitude : Nat} (whole : IsWhole negative magnitude) :
    number negative (Nat.toDigits 10 magnitude) none none = .integer negative magnitude := by
  have fits : magnitude ≤ maxUnsigned64 := by
    unfold IsWhole minSigned64 at whole
    unfold maxUnsigned64 at *
    split at whole <;> omega
  have all : ∀ digit ∈ Nat.toDigits 10 magnitude, digit.isDigit = true := fun digit member =>
    Nat.isDigit_of_mem_toDigits (by decide) (by decide) member
  have leading : significant 0 (Nat.toDigits 10 magnitude) = (magnitude, 0) := by
    rw [significant_eq all (by rwa [Nat.ofDigitChars_ten_toDigits]), Nat.ofDigitChars_ten_toDigits]
  unfold number
  rw [leading]
  cases negative with
  | false => rfl
  | true =>
      simp only [IsWhole, if_true] at whole
      simp [whole]

theorem readNumber_integer {negative : Bool} {magnitude : Nat} (whole : IsWhole negative magnitude)
    {rest : List Char} (ends : EndsNumber rest) :
    readNumber ((write (.integer negative magnitude)).toList ++ rest) =
      some (.integer negative magnitude, rest) := by
  have text : (write (.integer negative magnitude)).toList =
      (sign negative).toList ++ Nat.toDigits 10 magnitude := by
    simp [write]
  have all : ∀ digit ∈ Nat.toDigits 10 magnitude, digit.isDigit = true := fun digit member =>
    Nat.isDigit_of_mem_toDigits (by decide) (by decide) member
  have digits := readDigits_append all ends
  have regular : ((Nat.toDigits 10 magnitude).isEmpty || ((Nat.toDigits 10 magnitude).head? == some '0' &&
      (Nat.toDigits 10 magnitude).length != 1)) = false := by
    rcases Nat.eq_zero_or_pos magnitude with rfl | positive
    · rfl
    · simp [toDigits_head positive]
  have read := number_toDigits whole
  rw [text, List.append_assoc]
  unfold readNumber
  cases negative with
  | true =>
      simp [sign, digits, regular, readFraction_ends ends, readExponent_ends ends, read]
  | false =>
      cases written : Nat.toDigits 10 magnitude with
      | nil => exact absurd written Nat.toDigits_ne_nil
      | cons first others =>
          rw [written] at all digits regular read
          have unsigned : first ≠ '-' := by
            rintro rfl
            exact absurd (all '-' (by simp)) (by decide)
          rw [List.cons_append] at digits
          simpa [sign, unsigned, digits, readFraction_ends ends, readExponent_ends ends, read] using regular

end Locator.Data.Json
