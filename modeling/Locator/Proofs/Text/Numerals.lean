import Locator.Text.Blank
import Locator.Text.Numeral
import Mathlib.Data.List.DropRight

/-!
# Decimal numerals and blanks around a text

A text is read as a decimal numeral when it is not empty and holds nothing but decimal digits, and the number is
the one that the digits make up. What is left of a text without the blanks around it is what stands between blanks
and neither starts nor ends with one.
-/

namespace Locator.Text

set_option autoImplicit false

/-! ## Numerals -/

theorem isDigit_iff {character : Char} :
    character.isDigit = true ↔ 0x30 ≤ character.toNat ∧ character.toNat ≤ 0x39 := by
  simp [Char.isDigit, UInt32.le_iff_toNat_le]

theorem digit?_of_isDigit {digit : Char} (isDigit : digit.isDigit = true) :
    digit? 10 digit = some (digit.toNat - '0'.toNat) := by
  have between := isDigit_iff.mp isDigit
  have below : digit.toNat - 0x30 < 10 := by omega
  simp [digit?, between, below]

theorem digit?_of_not_isDigit {character : Char} (other : character.isDigit = false) :
    digit? 10 character = none := by
  have outside : ¬(0x30 ≤ character.toNat ∧ character.toNat ≤ 0x39) := fun between => by
    rw [isDigit_iff.mpr between] at other
    cases other
  simp only [digit?, if_neg outside]
  -- The letters are digits of ten and more.
  split
  case isTrue => simp
  case isFalse =>
      split
      case isTrue => simp
      case isFalse => rfl

theorem numeralFrom_eq_some_iff {digits : List Char} {sofar number : Nat} :
    numeralFrom 10 sofar digits = some number ↔
      (∀ digit ∈ digits, digit.isDigit = true) ∧ Nat.ofDigitChars 10 digits sofar = number := by
  induction digits generalizing sofar with
  | nil => simp [numeralFrom, Nat.ofDigitChars]
  | cons first others ih =>
      rw [numeralFrom, List.forall_mem_cons, Nat.ofDigitChars_cons]
      cases isDigit : first.isDigit with
      | true => simp only [digit?_of_isDigit isDigit, ih, Nat.mul_comm sofar 10, true_and]
      | false => simp [digit?_of_not_isDigit isDigit]

theorem numeral?_eq_some_iff {digits : List Char} {number : Nat} :
    numeral? 10 digits = some number ↔
      digits ≠ [] ∧ (∀ digit ∈ digits, digit.isDigit = true) ∧ Nat.ofDigitChars 10 digits 0 = number := by
  unfold numeral?
  cases digits with
  | nil => simp
  | cons first others => simp [numeralFrom_eq_some_iff]

/-! ## Blanks -/

theorem isBlank_of_isDigit {digit : Char} (isDigit : digit.isDigit = true) : isBlank digit = false := by
  have between := isDigit_iff.mp isDigit
  simp only [isBlank, Bool.or_eq_false_iff, Bool.and_eq_false_iff, decide_eq_false_iff_not, beq_eq_false_iff_ne]
  omega

theorem trimmed_eq_rdropWhile (text : List Char) :
    trimmed text = (text.dropWhile isBlank).rdropWhile isBlank :=
  rfl

/-- A text is what is left of it when trimmed, with blanks around. -/
theorem exists_around_trimmed (text : List Char) :
    ∃ before after, text = before ++ trimmed text ++ after ∧
      (∀ character ∈ before, isBlank character = true) ∧ ∀ character ∈ after, isBlank character = true := by
  refine ⟨text.takeWhile isBlank, (text.dropWhile isBlank).rtakeWhile isBlank, ?_, ?_, ?_⟩
  · rw [trimmed_eq_rdropWhile, List.append_assoc, List.rdropWhile_append_rtakeWhile,
      List.takeWhile_append_dropWhile]
  · exact fun _ member => List.mem_takeWhile_imp member
  · exact fun _ member => List.mem_rtakeWhile_imp member

theorem rdropWhile_append_blank {core after : List Char} (blank : ∀ character ∈ after, isBlank character = true) :
    (core ++ after).rdropWhile isBlank = core.rdropWhile isBlank := by
  have reversed : ∀ character ∈ after.reverse, isBlank character = true := by simpa using blank
  rw [List.rdropWhile, List.rdropWhile, List.reverse_append, List.dropWhile_append_of_pos reversed]

/-- Blanks around a text that neither starts nor ends with one are what is trimmed. -/
theorem trimmed_around {before core after : List Char} (blankBefore : ∀ character ∈ before, isBlank character = true)
    (blankAfter : ∀ character ∈ after, isBlank character = true)
    (first : ∀ character ∈ core.head?, isBlank character = false)
    (last : ∀ character ∈ core.getLast?, isBlank character = false) : trimmed (before ++ core ++ after) = core := by
  rw [trimmed_eq_rdropWhile, List.append_assoc, List.dropWhile_append_of_pos blankBefore]
  cases core with
  | nil =>
      have none := List.dropWhile_eq_nil_iff.mpr blankAfter
      rw [List.nil_append, none, List.rdropWhile_nil]
  | cons head tail =>
      have stays : ¬isBlank head = true := by simp [first head (by simp)]
      rw [List.cons_append, List.dropWhile_cons_of_neg stays, ← List.cons_append,
        rdropWhile_append_blank blankAfter, List.rdropWhile_eq_self_iff]
      intro nonempty
      simp [last _ (List.getLast_mem_getLast? nonempty)]

end Locator.Text
