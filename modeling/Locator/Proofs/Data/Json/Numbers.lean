import Locator.Proofs.Data.Json.Scalars

/-!
# The whole numbers of a JSON text

Whatever the text, a number that is read as a whole one fits 64 bits under its sign and is no negative zero. All
other numbers are read as decimals.
-/

namespace Locator.Data

open Locator.Text

set_option autoImplicit false

namespace Value

mutual

/-- Every whole number in the value fits 64 bits under its sign and is no negative zero. -/
def Regular : Value → Prop
  | .integer negative magnitude => Json.IsWhole negative magnitude
  | .list items => ItemsRegular items
  | .record members => MembersRegular members
  | .empty | .null | .bool _ | .decimal _ _ _ | .text _ | .garbled => True

def ItemsRegular : List Value → Prop
  | [] => True
  | first :: others => first.Regular ∧ ItemsRegular others

def MembersRegular : List (Value × Value) → Prop
  | [] => True
  | (_, value) :: others => value.Regular ∧ MembersRegular others

end

theorem MembersRegular.of_mem {members : List (Value × Value)} (regular : MembersRegular members) {key value : Value}
    (mem : (key, value) ∈ members) : value.Regular := by
  induction members with
  | nil => cases mem
  | cons first others ih =>
      rcases List.mem_cons.mp mem with rfl | later
      · exact regular.1
      · exact ih regular.2 later

theorem Regular.ne_zero {magnitude : Nat} (regular : (Value.integer true magnitude).Regular) : magnitude ≠ 0 :=
  Nat.ne_of_gt (And.left regular)

end Value

namespace Json

theorem append?_le {number longer : Nat} {digit : Char} (appended : append? number digit = some longer) :
    longer ≤ maxUnsigned64 := by
  unfold append? at appended
  split at appended
  · cases appended
  · simp only [Option.ite_none_right_eq_some, Option.some.injEq] at appended
    obtain ⟨fits, rfl⟩ := appended
    exact fits

theorem significant_le {number : Nat} (fits : number ≤ maxUnsigned64) (digits : List Char) :
    (significant number digits).1 ≤ maxUnsigned64 := by
  induction digits generalizing number with
  | nil => exact fits
  | cons digit digits ih =>
      rw [significant]
      split
      · exact fits
      · rename_i longer appended
        exact ih (append?_le appended)

theorem number_regular (negative : Bool) (whole : List Char) (fraction : Option (List Char)) (exponent : Option Int) :
    (number negative whole fraction exponent).Regular := by
  have fits := significant_le (Nat.zero_le maxUnsigned64) whole
  unfold number
  cases leading : significant 0 whole with
  | mk leading left =>
      simp only [leading] at fits ⊢
      split
      · cases negative with
        | false => exact fits
        | true =>
            simp only [Bool.not_true, Bool.false_eq_true, if_false]
            split
            · assumption
            · trivial
      · trivial

theorem readNumber_regular {input rest : List Char} {value : Value} (read : readNumber input = some (value, rest)) :
    value.Regular := by
  unfold readNumber at read
  split at read
  dsimp only at read
  split at read
  · cases read
  · simp only [bind, Option.bind_eq_some_iff] at read
    obtain ⟨⟨fraction, _⟩, _, ⟨exponent, _⟩, _, same⟩ := read
    cases same
    exact number_regular _ _ _ _

theorem readText_regular {input rest : List Char} {value : Value} (read : readText input = some (value, rest)) :
    value.Regular := by
  unfold readText at read
  simp only [bind, Option.bind_eq_some_iff] at read
  obtain ⟨⟨pieces, _⟩, _, same⟩ := read
  dsimp only at same
  split at same <;> cases same <;> trivial

/-- What is read with the given fuel is regular. -/
structure ReadsRegular (fuel : Nat) : Prop where
  values : ∀ {input value rest}, readValue fuel input = some (value, rest) → value.Regular
  items : ∀ {input items rest}, readItems fuel input = some (items, rest) → Value.ItemsRegular items
  members : ∀ {input members rest}, readMembers fuel input = some (members, rest) → Value.MembersRegular members

namespace ReadsRegular

variable {fuel : Nat} {input rest : List Char}

theorem next_value (regular : ReadsRegular fuel) {value : Value}
    (read : readValue (fuel + 1) input = some (value, rest)) : value.Regular := by
  unfold readValue at read
  split at read
  · cases read
    trivial
  · cases read
    trivial
  · cases read
    trivial
  · exact readText_regular read
  · split at read
    · cases read
      trivial
    · simp only [bind, Option.bind_eq_some_iff] at read
      obtain ⟨⟨items, _⟩, readItems, same⟩ := read
      cases same
      exact regular.items readItems
  · split at read
    · cases read
      trivial
    · simp only [bind, Option.bind_eq_some_iff] at read
      obtain ⟨⟨members, _⟩, readMembers, same⟩ := read
      cases same
      exact regular.members readMembers
  · exact readNumber_regular read

theorem next_items (regular : ReadsRegular fuel) {items : List Value}
    (read : readItems (fuel + 1) input = some (items, rest)) : Value.ItemsRegular items := by
  unfold readItems at read
  simp only [bind, Option.bind_eq_some_iff] at read
  obtain ⟨⟨first, behind⟩, readFirst, read⟩ := read
  dsimp only at read
  split at read
  · rw [Option.bind_eq_some_iff] at read
    obtain ⟨⟨others, _⟩, readOthers, same⟩ := read
    cases same
    exact ⟨regular.values readFirst, regular.items readOthers⟩
  · cases read
    exact ⟨regular.values readFirst, trivial⟩
  · cases read

theorem next_members (regular : ReadsRegular fuel) {members : List (Value × Value)}
    (read : readMembers (fuel + 1) input = some (members, rest)) : Value.MembersRegular members := by
  unfold readMembers at read
  split at read
  case h_2 => cases read
  simp only [bind, Option.bind_eq_some_iff] at read
  obtain ⟨⟨key, behind⟩, _, read⟩ := read
  dsimp only at read
  split at read
  case h_2 => cases read
  rw [Option.bind_eq_some_iff] at read
  obtain ⟨⟨value, behind⟩, readFirst, read⟩ := read
  dsimp only at read
  split at read
  · rw [Option.bind_eq_some_iff] at read
    obtain ⟨⟨others, _⟩, readOthers, same⟩ := read
    cases same
    exact ⟨regular.values readFirst, regular.members readOthers⟩
  · cases read
    exact ⟨regular.values readFirst, trivial⟩
  · cases read

/-- The readers that call each other share their fuel, so the induction is on it for all three at once. -/
theorem all (fuel : Nat) : ReadsRegular fuel := by
  induction fuel with
  | zero => exact ⟨nofun, nofun, nofun⟩
  | succ fuel ih => exact ⟨ih.next_value, ih.next_items, ih.next_members⟩

end ReadsRegular

/-- Whatever the text, its whole numbers are regular. -/
theorem parse_regular {text : String} {value : Value} (parsed : parse text = some value) : value.Regular := by
  simp only [parse, bind, Option.bind_eq_some_iff] at parsed
  obtain ⟨⟨found, rest⟩, read, parsed⟩ := parsed
  dsimp only at parsed
  split at parsed
  · cases parsed
    exact (ReadsRegular.all _).values read
  · cases parsed

end Json

end Locator.Data
