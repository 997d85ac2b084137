import Locator.Text.Pieces

/-!
# String functions

The string functions of XPath 1.0 on lists of characters.
-/

namespace Locator.XPath

open Locator.Text

set_option autoImplicit false

/-- The four characters that separate words. -/
def isSpace (character : Char) : Bool :=
  character == ' ' || character == '\t' || character == '\n' || character == '\r'

/-- The words of a text, none of them empty. -/
def splitWords (text : List Char) : List (List Char) :=
  (cut ' ' (text.map fun character => if isSpace character then ' ' else character)).filter
    (!·.isEmpty)

def normalizeSpace (text : List Char) : List Char :=
  [' '].intercalate (splitWords text)

/-- What comes after the first occurrence of `value`, if there is one. -/
def afterFirst? (value : List Char) : List Char → Option (List Char)
  | [] => if value.isEmpty then some [] else none
  | first :: others =>
      if value.isPrefixOf (first :: others) then some ((first :: others).drop value.length)
      else afterFirst? value others

def hasPart (text value : List Char) : Bool :=
  (afterFirst? value text).isSome

/-- An occurrence is a way to cut the text in three, and the first one has the shortest front. -/
theorem afterFirst?_eq_some_iff {value text rest : List Char} :
    afterFirst? value text = some rest ↔
      ∃ front, text = front ++ value ++ rest ∧
        ∀ front' rest', text = front' ++ value ++ rest' → front.length ≤ front'.length := by
  induction text generalizing rest with
  | nil =>
      simp only [afterFirst?]
      split
      · rename_i empty
        have none : value = [] := List.isEmpty_iff.mp empty
        subst none
        simp
      · rename_i nonempty
        constructor
        · intro impossible
          exact absurd impossible (by simp)
        · intro given
          rcases given with ⟨front, same, -⟩
          have parts := List.append_eq_nil_iff.mp same.symm
          have empty := (List.append_eq_nil_iff.mp parts.1).2
          exact absurd (List.isEmpty_iff.mpr empty) nonempty
  | cons first others ih =>
      simp only [afterFirst?]
      split
      · rename_i here
        obtain ⟨tail, same⟩ := List.isPrefixOf_iff_prefix.mp here
        rw [← same, List.drop_left, Option.some.injEq]
        constructor
        · intro equal
          subst equal
          exact ⟨[], by simp, by simp⟩
        · intro given
          rcases given with ⟨front, cutting, least⟩
          have short := least [] tail (by simp)
          have empty : front = [] := List.length_eq_zero_iff.mp (by simpa using short)
          subst empty
          simpa using cutting
      · rename_i elsewhere
        have notHere : ∀ rest', first :: others ≠ value ++ rest' := by
          intro rest' same
          exact elsewhere (List.isPrefixOf_iff_prefix.mpr ⟨rest', same.symm⟩)
        rw [ih]
        constructor
        · intro given
          rcases given with ⟨front, same, least⟩
          refine ⟨first :: front, by simp [same], ?_⟩
          intro front' rest' cutting
          cases front' with
          | nil => exact absurd cutting (notHere rest')
          | cons head front' =>
              simp only [List.cons_append, List.cons.injEq] at cutting
              have shorter := least front' rest' cutting.2
              simpa using shorter
        · intro given
          rcases given with ⟨front, same, least⟩
          cases front with
          | nil => exact absurd same (notHere rest)
          | cons head front =>
              simp only [List.cons_append, List.cons.injEq] at same
              rcases same with ⟨rfl, same⟩
              refine ⟨front, same, ?_⟩
              intro front' rest' cutting
              have shorter := least (first :: front') rest' (by simp [cutting])
              simpa using shorter

theorem afterFirst?_eq_none_iff {value text : List Char} :
    afterFirst? value text = none ↔ ∀ front rest, text ≠ front ++ value ++ rest := by
  induction text with
  | nil =>
      simp only [afterFirst?]
      split
      · rename_i empty
        have none : value = [] := List.isEmpty_iff.mp empty
        subst none
        constructor
        · intro impossible
          exact absurd impossible (by simp)
        · intro nowhere
          exact absurd rfl (nowhere [] [])
      · rename_i nonempty
        constructor
        · intro _ front rest same
          have parts := List.append_eq_nil_iff.mp same.symm
          have empty := (List.append_eq_nil_iff.mp parts.1).2
          exact nonempty (List.isEmpty_iff.mpr empty)
        · intro _
          rfl
  | cons first others ih =>
      simp only [afterFirst?]
      split
      · rename_i here
        obtain ⟨tail, same⟩ := List.isPrefixOf_iff_prefix.mp here
        constructor
        · intro impossible
          exact absurd impossible (by simp)
        · intro nowhere
          exact absurd (by simpa using same.symm) (nowhere [] tail)
      · rename_i elsewhere
        rw [ih]
        constructor
        · intro nowhere front rest cutting
          cases front with
          | nil =>
              exact elsewhere (List.isPrefixOf_iff_prefix.mpr ⟨rest, by simpa using cutting.symm⟩)
          | cons head front =>
              simp only [List.cons_append, List.cons.injEq] at cutting
              exact nowhere front rest cutting.2
        · intro nowhere front rest cutting
          exact nowhere (first :: front) rest (by simp [cutting])

theorem hasPart_iff {text value : List Char} :
    hasPart text value = true ↔ ∃ front rest, text = front ++ value ++ rest := by
  rw [hasPart, Option.isSome_iff_ne_none, ne_eq, afterFirst?_eq_none_iff]
  simp

end Locator.XPath
