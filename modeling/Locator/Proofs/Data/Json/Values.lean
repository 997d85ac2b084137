import Locator.Proofs.Data.Json.Scalars

/-!
# Values read back from JSON

The values that JSON has a form for are read back as they were written.
-/

namespace Locator.Data

open Locator.Text

set_option autoImplicit false

namespace Value

mutual

/-- Values that JSON has a form for: whole numbers are in range, keys are texts. -/
def Exact : Value → Prop
  | .null | .bool _ | .text _ => True
  | .integer negative magnitude => Json.IsWhole negative magnitude
  | .empty | .decimal _ _ _ | .garbled => False
  | .list items => ItemsExact items
  | .record members => MembersExact members

def ItemsExact : List Value → Prop
  | [] => True
  | first :: others => first.Exact ∧ ItemsExact others

def MembersExact : List (Value × Value) → Prop
  | [] => True
  | (key, value) :: others => (∃ name, key = .text name) ∧ value.Exact ∧ MembersExact others

end

end Value

namespace Json

theorem skip_cons {first : Char} (others : List Char) (plain : isSpace first = false) :
    skip (first :: others) = first :: others := by
  simp [skip, plain]

theorem toList_join_cons (first next : String) (others : List String) :
    (join "," (first :: next :: others)).toList = first.toList ++ ',' :: (join "," (next :: others)).toList := by
  simp [join]

theorem toList_list (items : List Value) :
    (write (.list items)).toList = '[' :: ((join "," (writeItems items)).toList ++ [']']) := by
  simp [write]

theorem toList_record (members : List (Value × Value)) :
    (write (.record members)).toList = '\x7b' :: ((join "," (writeMembers members)).toList ++ ['\x7d']) := by
  simp [write]

theorem toList_items (first next : Value) (others : List Value) :
    (join "," (writeItems (first :: next :: others))).toList =
      (write first).toList ++ ',' :: (join "," (writeItems (next :: others))).toList :=
  toList_join_cons _ _ _

theorem toList_members (first next : Value × Value) (others : List (Value × Value)) :
    (join "," (writeMembers (first :: next :: others))).toList =
      (join "," (writeMembers [first])).toList ++ ',' :: (join "," (writeMembers (next :: others))).toList :=
  toList_join_cons _ _ _

theorem toList_member (name : String) (value : Value) :
    (join "," (writeMembers [(.text name, value)])).toList =
      '"' :: (name.toList.flatMap escape ++ '"' :: ':' :: (write value).toList) := by
  simp [writeMembers, join, asKey, write, quote]

theorem write_integer_opens (negative : Bool) (magnitude : Nat) :
    ∃ first others, (write (.integer negative magnitude)).toList = first :: others ∧
      (first = '-' ∨ first.isDigit = true) := by
  cases negative with
  | true => exact ⟨'-', Nat.toDigits 10 magnitude, by simp [write, sign], .inl rfl⟩
  | false =>
      cases written : Nat.toDigits 10 magnitude with
      | nil => exact absurd written Nat.toDigits_ne_nil
      | cons first others =>
          refine ⟨first, others, by simp [write, sign, written], .inr ?_⟩
          exact Nat.isDigit_of_mem_toDigits (b := 10) (n := magnitude) (by decide) (by decide) (by simp [written])

/-- A number begins like nothing else, and not with white space. -/
theorem plain_of_opens_number {first other : Char} (opens : first = '-' ∨ first.isDigit = true)
    (different : other ≠ '-' ∧ other.isDigit = false) : first ≠ other := by
  rintro rfl
  rcases opens with dash | digit
  · exact different.1 dash
  · rw [different.2] at digit
    exact Bool.false_ne_true digit

theorem isSpace_of_opens_number {first : Char} (opens : first = '-' ∨ first.isDigit = true) :
    isSpace first = false := by
  have other (space : Char) (different : space ≠ '-' ∧ space.isDigit = false) : first ≠ space :=
    plain_of_opens_number opens different
  simp [isSpace, other ' ' (by decide), other '\n' (by decide), other '\t' (by decide), other '\r' (by decide)]

/-- The first character of a value is no white space and does not close a list. -/
theorem write_opens {value : Value} (exact : value.Exact) :
    ∃ first others, (write value).toList = first :: others ∧ isSpace first = false ∧ first ≠ ']' := by
  cases value with
  | empty | decimal _ _ _ | garbled => exact exact.elim
  | null => exact ⟨'n', _, rfl, by decide, by decide⟩
  | bool value => cases value <;> exact ⟨_, _, rfl, by decide, by decide⟩
  | integer negative magnitude =>
      obtain ⟨first, others, text, opens⟩ := write_integer_opens negative magnitude
      exact ⟨first, others, text, isSpace_of_opens_number opens, plain_of_opens_number opens (by decide)⟩
  | text content => exact ⟨'"', _, toList_quote content, by decide, by decide⟩
  | list items => exact ⟨'[', _, toList_list items, by decide, by decide⟩
  | record members => exact ⟨'\x7b', _, toList_record members, by decide, by decide⟩

theorem readValue_integer {negative : Bool} {magnitude : Nat} (whole : IsWhole negative magnitude)
    {rest : List Char} (ends : EndsNumber rest) (fuel : Nat) :
    readValue (fuel + 1) ((write (.integer negative magnitude)).toList ++ rest) =
      some (.integer negative magnitude, rest) := by
  have read := readNumber_integer whole ends
  obtain ⟨first, others, text, opens⟩ := write_integer_opens negative magnitude
  have other (mark : Char) (different : mark ≠ '-' ∧ mark.isDigit = false) : first ≠ mark :=
    plain_of_opens_number opens different
  rw [text] at read ⊢
  rw [List.cons_append] at read ⊢
  simp only [readValue, skip_cons _ (isSpace_of_opens_number opens)]
  rw [← read]
  simp [other 'n' (by decide), other 't' (by decide), other 'f' (by decide), other '"' (by decide),
    other '[' (by decide), other '\x7b' (by decide)]

theorem items_open {first : Value} {others : List Value} (exact : first.Exact) :
    ∃ opening closing, (join "," (writeItems (first :: others))).toList = opening :: closing ∧
      isSpace opening = false ∧ opening ≠ ']' := by
  obtain ⟨opening, closing, text, plain, notClosing⟩ := write_opens exact
  cases others with
  | nil => exact ⟨opening, closing, text, plain, notClosing⟩
  | cons next others =>
      refine ⟨opening, closing ++ ',' :: (join "," (writeItems (next :: others))).toList, ?_, plain, notClosing⟩
      rw [toList_items, text]
      rfl

theorem members_open {first : Value × Value} {others : List (Value × Value)}
    (named : ∃ name, first.1 = .text name) :
    ∃ closing, (join "," (writeMembers (first :: others))).toList = '"' :: closing := by
  obtain ⟨key, value⟩ := first
  obtain ⟨name, rfl⟩ := named
  cases others with
  | nil => exact ⟨_, toList_member name value⟩
  | cons next others =>
      rw [toList_members, toList_member]
      exact ⟨_, rfl⟩

theorem endsNumber_cons {mark : Char} (closes : mark.isDigit = false ∧ mark ∉ ['.', 'e', 'E'])
    (rest : List Char) : EndsNumber (mark :: rest) := by
  intro first opening
  obtain rfl : mark = first := by simpa using opening
  exact closes

theorem endsNumber_comma (rest : List Char) : EndsNumber (',' :: rest) :=
  endsNumber_cons (by decide) rest

theorem endsNumber_bracket (rest : List Char) : EndsNumber (']' :: rest) :=
  endsNumber_cons (by decide) rest

theorem endsNumber_brace (rest : List Char) : EndsNumber ('\x7d' :: rest) :=
  endsNumber_cons (by decide) rest

mutual

theorem readValue_write (value : Value) (exact : value.Exact) {rest : List Char} (ends : EndsNumber rest)
    {fuel : Nat} (enough : 2 * (write value).toList.length ≤ fuel) :
    readValue fuel ((write value).toList ++ rest) = some (value, rest) := by
  obtain ⟨fuel, rfl⟩ : ∃ less, fuel = less + 1 := by
    obtain ⟨first, others, text, _⟩ := write_opens exact
    rw [text, List.length_cons] at enough
    exact ⟨fuel - 1, by omega⟩
  cases value with
  | empty | decimal _ _ _ | garbled => exact exact.elim
  | null => rfl
  | bool value => cases value <;> rfl
  | integer negative magnitude => exact readValue_integer exact ends fuel
  | text content =>
      rw [write, toList_quote, List.cons_append, List.append_assoc]
      exact readText_quote content rest
  | list items =>
      cases items with
      | nil => rfl
      | cons first others =>
          rw [toList_list] at enough ⊢
          simp only [List.length_cons, List.length_append] at enough
          have items := readItems_write (first :: others) exact (by simp) rest
            (show 2 * (join "," (writeItems (first :: others))).toList.length + 1 ≤ fuel by omega)
          obtain ⟨opening, closing, text, plain, notClosing⟩ := @items_open first others exact.1
          rw [text, List.cons_append] at items
          rw [text, List.cons_append, List.append_assoc, List.cons_append]
          have bracket (rest : List Char) : skip ('[' :: rest) = '[' :: rest := skip_cons rest (by decide)
          simp [readValue, skip_cons _ plain, bracket, notClosing, items]
  | record members =>
      cases members with
      | nil => rfl
      | cons first others =>
          rw [toList_record] at enough ⊢
          simp only [List.length_cons, List.length_append] at enough
          have members := readMembers_write (first :: others) exact (by simp) rest
            (show 2 * (join "," (writeMembers (first :: others))).toList.length + 1 ≤ fuel by omega)
          obtain ⟨closing, text⟩ := @members_open first others exact.1
          rw [text, List.cons_append] at members
          rw [text, List.cons_append, List.append_assoc, List.cons_append]
          simp [readValue, skip, isSpace, members]

theorem readItems_write (items : List Value) (exact : Value.ItemsExact items) (nonempty : items ≠ [])
    (rest : List Char) {fuel : Nat} (enough : 2 * (join "," (writeItems items)).toList.length + 1 ≤ fuel) :
    readItems fuel ((join "," (writeItems items)).toList ++ ']' :: rest) = some (items, rest) := by
  obtain ⟨fuel, rfl⟩ : ∃ less, fuel = less + 1 := ⟨fuel - 1, by omega⟩
  cases items with
  | nil => exact absurd rfl nonempty
  | cons first others =>
      cases others with
      | nil =>
          have read := readValue_write first exact.1 (endsNumber_bracket rest)
            (show 2 * (write first).toList.length ≤ fuel by simp only [writeItems, join] at enough; omega)
          simp [readItems, writeItems, join, read, skip, isSpace]
      | cons next others =>
          rw [toList_items] at enough ⊢
          simp only [List.length_cons, List.length_append] at enough
          have later := readItems_write (next :: others) exact.2 (by simp) rest
            (show 2 * (join "," (writeItems (next :: others))).toList.length + 1 ≤ fuel by omega)
          have read := readValue_write first exact.1
            (endsNumber_comma ((join "," (writeItems (next :: others))).toList ++ ']' :: rest))
            (show 2 * (write first).toList.length ≤ fuel by omega)
          simp [readItems, read, later, skip, isSpace]

theorem readMembers_write (members : List (Value × Value)) (exact : Value.MembersExact members)
    (nonempty : members ≠ []) (rest : List Char) {fuel : Nat}
    (enough : 2 * (join "," (writeMembers members)).toList.length + 1 ≤ fuel) :
    readMembers fuel ((join "," (writeMembers members)).toList ++ '\x7d' :: rest) = some (members, rest) := by
  obtain ⟨fuel, rfl⟩ : ∃ less, fuel = less + 1 := ⟨fuel - 1, by omega⟩
  match members with
  | [] => exact absurd rfl nonempty
  | [(key, value)] =>
      obtain ⟨⟨name, rfl⟩, exact, _⟩ := exact
      rw [toList_member] at enough ⊢
      simp only [List.length_cons, List.length_append] at enough
      have read := readValue_write value exact (endsNumber_brace rest)
        (show 2 * (write value).toList.length ≤ fuel by omega)
      simp [readMembers, readText_quote, read, skip, isSpace]
  | (key, value) :: next :: others =>
      obtain ⟨⟨name, rfl⟩, exact, more⟩ := exact
      rw [toList_members, toList_member] at enough ⊢
      simp only [List.length_cons, List.length_append] at enough
      have later := readMembers_write (next :: others) more (by simp) rest
        (show 2 * (join "," (writeMembers (next :: others))).toList.length + 1 ≤ fuel by omega)
      have read := readValue_write value exact
        (endsNumber_comma ((join "," (writeMembers (next :: others))).toList ++ '\x7d' :: rest))
        (show 2 * (write value).toList.length ≤ fuel by omega)
      simp [readMembers, readText_quote, read, later, skip, isSpace]

end

/-- What is written for a value that JSON has a form for is read as that value. -/
theorem parse_write {value : Value} (exact : value.Exact) : parse (write value) = some value := by
  have ends : EndsNumber [] := nofun
  have enough : 2 * (write value).toList.length ≤ 2 * (write value).toList.length + 2 := Nat.le_add_right _ 2
  have read := readValue_write value exact ends enough
  rw [List.append_nil] at read
  rw [parse, read]
  rfl

end Json

end Locator.Data
