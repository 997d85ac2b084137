import Locator.Grid.Navigation
import Locator.Page.Browser
import Locator.Proofs.Browser.Conclusions
import Locator.Proofs.Path.Chain
import Locator.Proofs.Text.Numerals

/-!
# Row indices are read exactly

In a grid that does not scroll the index of a row is what the row's attribute spells: decimal digits that make up
a number of 64 bits. Every other text is an error, and so is a row without the attribute. What the path of a row
asks for is read back as the index of that row.
-/

namespace Locator

open Locator.Text

set_option autoImplicit false

/-- The text spells the index: decimal digits with at most a plus sign in front of them and blanks around, and
the number that they make up is one of 64 bits. -/
inductive SpellsRowIndex (value : String) : (index : Nat) → Prop where
  | numeral (before sign digits after : List Char) (text : value.toList = before ++ (sign ++ digits) ++ after)
      (blankBefore : ∀ character ∈ before, isBlank character = true)
      (blankAfter : ∀ character ∈ after, isBlank character = true)
      (signed : sign = [] ∨ sign = ['+']) (nonempty : digits ≠ [])
      (decimal : ∀ digit ∈ digits, digit.isDigit = true)
      (fits : Nat.ofDigitChars 10 digits 0 ≤ Data.maxUnsigned64) :
      SpellsRowIndex value (Nat.ofDigitChars 10 digits 0)

/-- The text without a plus sign at its start. -/
def withoutPlus : List Char → List Char
  | '+' :: digits => digits
  | digits => digits

theorem withoutPlus_signed {sign digits : List Char} (signed : sign = [] ∨ sign = ['+'])
    (decimal : ∀ digit ∈ digits, digit.isDigit = true) : withoutPlus (sign ++ digits) = digits := by
  rcases signed with rfl | rfl
  · cases digits with
    | nil => rfl
    | cons first others =>
        have other : first ≠ '+' := by
          rintro rfl
          exact absurd (decimal '+' (by simp)) (by decide)
        simp [withoutPlus, other]
  · rfl

theorem exists_sign (text : List Char) : ∃ sign, (sign = [] ∨ sign = ['+']) ∧ text = sign ++ withoutPlus text := by
  unfold withoutPlus
  split
  · exact ⟨['+'], .inr rfl, rfl⟩
  · exact ⟨[], .inl rfl, rfl⟩

theorem rowIndex?_eq_numeral (value : String) :
    rowIndex? value = (numeral? 10 (withoutPlus (trimmed value.toList))).filter (· ≤ Data.maxUnsigned64) :=
  rfl

theorem trimmed_numeral {before sign digits after : List Char} (signed : sign = [] ∨ sign = ['+'])
    (blankBefore : ∀ character ∈ before, isBlank character = true)
    (blankAfter : ∀ character ∈ after, isBlank character = true)
    (decimal : ∀ digit ∈ digits, digit.isDigit = true) :
    trimmed (before ++ (sign ++ digits) ++ after) = sign ++ digits := by
  have unblank : ∀ character ∈ sign ++ digits, isBlank character = false := by
    intro character member
    rcases List.mem_append.mp member with inSign | inDigits
    · rcases signed with rfl | rfl
      · cases inSign
      · rw [List.mem_singleton.mp inSign]
        decide
    · exact isBlank_of_isDigit (decimal character inDigits)
  apply trimmed_around blankBefore blankAfter
  · exact fun character first => unblank character (List.mem_of_mem_head? first)
  · exact fun character last => unblank character (List.mem_of_mem_getLast? last)

/-- What is read is what is spelt. -/
theorem rowIndex?_eq_some_iff {value : String} {index : Nat} :
    rowIndex? value = some index ↔ SpellsRowIndex value index := by
  rw [rowIndex?_eq_numeral, Option.filter_eq_some_iff, numeral?_eq_some_iff]
  constructor
  · rintro ⟨⟨nonempty, decimal, rfl⟩, fits⟩
    obtain ⟨before, after, text, blankBefore, blankAfter⟩ := exists_around_trimmed value.toList
    obtain ⟨sign, signed, core⟩ := exists_sign (trimmed value.toList)
    rw [core] at text
    exact .numeral before sign _ after text blankBefore blankAfter signed nonempty decimal (by simpa using fits)
  · rintro ⟨before, sign, digits, after, text, blankBefore, blankAfter, signed, nonempty, decimal, fits⟩
    rw [text, trimmed_numeral signed blankBefore blankAfter decimal, withoutPlus_signed signed decimal]
    exact ⟨⟨nonempty, decimal, rfl⟩, by simpa using fits⟩

/-- The decimal digits of a number of 64 bits spell it. -/
theorem spellsRowIndex_toString {index : Nat} (fits : index ≤ Data.maxUnsigned64) :
    SpellsRowIndex (toString index) index := by
  have number : Nat.ofDigitChars 10 (Nat.toDigits 10 index) 0 = index := Nat.ofDigitChars_ten_toDigits
  have spells : SpellsRowIndex (toString index) (Nat.ofDigitChars 10 (Nat.toDigits 10 index) 0) :=
    .numeral [] [] (Nat.toDigits 10 index) [] (by simp) (by simp) (by simp) (.inl rfl) Nat.toDigits_ne_nil
      (fun digit member => Nat.isDigit_of_mem_toDigits (by decide) (by decide) member) (by rwa [number])
  rwa [number] at spells

namespace Grid

open Locator.Action

variable {State : Type}

/-- What a row path asks for in the attribute that holds the index. -/
theorem mem_constraints_rowPath {grid : Grid} {index : Nat} {value : String} :
    .property (.hasAttributeValue rowIndexAttribute value) ∈ (grid.rowPath index).constraints ↔
      value = toString index := by
  have constraints : (grid.rowPath index).constraints =
      [.property (.hasRole "row"), .property (hasRowIndex index), .relation .inside grid.regions.content] :=
    rfl
  rw [constraints]
  simp [Property.hasRole, hasRowIndex, Property.hasAttributeValue, rowIndexAttribute]

/-- The row that looking up comes to, before its index is read. -/
def foundRow (browser : Browser (Grid × State)) (expected : RowSpec) : GridAction State Handle := do
  ensureColumns browser
  let row ← ofExcept ((← known).expectedRowPath none expected)
  browser.find row

theorem lookUpRow_eq (browser : Browser (Grid × State)) (expected : RowSpec) :
    lookUpRow browser expected = foundRow browser expected >>= readRowIndex browser := by
  simp only [lookUpRow, foundRow, bind_assoc]

/-- The answer that what the index attribute of a row holds leads to. -/
def rowIndexAnswer (row : Handle) (held : Option String) : Except Error Nat :=
  match held with
  | none => .error ⟨.unsupported, "row " ++ row.id ++ " has no " ++ rowIndexAttribute ++ " attribute"⟩
  | some value =>
      match rowIndex? value with
      | none =>
          .error ⟨.driver, "row " ++ row.id ++ " has a non-numeric " ++ rowIndexAttribute ++ ": " ++ value⟩
      | some index => .ok index

theorem outcome_readRowIndex {browser : Browser (Grid × State)} {row : Handle} {found final : Grid × State}
    {held : Option String}
    (read : (browser.attribute? row rowIndexAttribute).outcome found = (.ok held, final)) :
    (readRowIndex browser row).outcome found = (rowIndexAnswer row held, final) := by
  unfold readRowIndex rowIndexAnswer
  rw [outcome_bind_of_ok read]
  cases held with
  | none => rfl
  | some value =>
      cases parsed : rowIndex? value with
      | none => simp only [parsed]; rfl
      | some index => simp only [parsed]; rfl

theorem rowIndexAnswer_eq_ok_iff {row : Handle} {held : Option String} {index : Nat} :
    rowIndexAnswer row held = .ok index ↔ ∃ value, held = some value ∧ SpellsRowIndex value index := by
  simp only [← rowIndex?_eq_some_iff]
  unfold rowIndexAnswer
  cases held with
  | none => simp
  | some value => cases parsed : rowIndex? value <;> simp [parsed]

theorem rowIndexAnswer_of_not_spells {row : Handle} {value : String} (other : ∀ index, ¬SpellsRowIndex value index) :
    rowIndexAnswer row (some value) =
      .error ⟨.driver, "row " ++ row.id ++ " has a non-numeric " ++ rowIndexAttribute ++ ": " ++ value⟩ := by
  have unread : rowIndex? value = none :=
    Option.eq_none_iff_forall_ne_some.mpr fun index read => other index (rowIndex?_eq_some_iff.mp read)
  simp only [rowIndexAnswer, unread]

/-- In a grid that does not scroll, the search for a row ends with the index that the attribute of the row found
spells; with an error of the browser when the attribute spells none; and with one of a page that lacks what is
needed when the row has no such attribute. Whatever the index, the text that the path of the row with this index
asks for is one of those that spell it. -/
theorem findRowIndex_reads_exactly (browser : Browser State) (grid : Grid) (fixed : grid.virtualized = false)
    (expected : RowSpec) (state : State) {row : Handle} {found final : Grid × State} {held : Option String}
    (lookedUp : (foundRow browser.besideGrid expected).outcome (grid, state) = (.ok row, found))
    (read : (browser.besideGrid.attribute? row rowIndexAttribute).outcome found = (.ok held, final)) :
    ∃ answer, (browser.findRowIndex expected).outcome (grid, state) = (answer, final) ∧
      (∀ index, answer = .ok index ↔ ∃ value, held = some value ∧ SpellsRowIndex value index) ∧
      (∀ value, held = some value → (∀ index, ¬SpellsRowIndex value index) →
        answer =
          .error ⟨.driver, "row " ++ row.id ++ " has a non-numeric " ++ rowIndexAttribute ++ ": " ++ value⟩) ∧
      (held = none →
        answer = .error ⟨.unsupported, "row " ++ row.id ++ " has no " ++ rowIndexAttribute ++ " attribute"⟩) ∧
      ∀ index ≤ Data.maxUnsigned64, ∃ value,
        (∀ other, .property (.hasAttributeValue rowIndexAttribute other) ∈ (grid.rowPath index).constraints ↔
          other = value) ∧
        (held = some value → answer = .ok index) := by
  have ended : (browser.findRowIndex expected).outcome (grid, state) = (rowIndexAnswer row held, final) := by
    have static : (browser.findRowIndex expected).outcome (grid, state) =
        (lookUpRow browser.besideGrid expected).outcome (grid, state) := by
      unfold Browser.findRowIndex
      rw [outcome_bind_of_ok (outcome_known (grid, state))]
      simp [fixed]
    rw [static, lookUpRow_eq, outcome_bind_of_ok lookedUp, outcome_readRowIndex read]
  refine ⟨_, ended, fun index => rowIndexAnswer_eq_ok_iff, ?other, ?absent, ?asked⟩
  case other =>
    rintro value rfl other
    exact rowIndexAnswer_of_not_spells other
  case absent =>
    rintro rfl
    rfl
  case asked =>
    intro index fits
    refine ⟨toString index, fun other => mem_constraints_rowPath, ?_⟩
    intro asked
    exact rowIndexAnswer_eq_ok_iff.mpr ⟨_, asked, spellsRowIndex_toString fits⟩

/-- A grid that does not scroll, of whose one column the id is known. -/
def rosterGrid : Grid where
  titles := ["A"]
  rows := []
  virtualized := false
  strict := false
  regions := .inside Html.html
  settings := {}
  columnIds := .ofList [("A", "a")]

/-- A page with a row of the grid whose index is written with a sign, a zero in front and blanks around. -/
def rosterPage : Page :=
  let blank : Page := {}
  let filled := blank.add ⟨"row"⟩ { attributes := .ofList [(rowIndexAttribute, " +042\n")] }
  let path := ((row.inside rosterGrid.regions.content).describedBy "row").and
    (.contains (cell.that [hasColumnId "a", .hasAggregatedText "x"]))
  filled.register path ⟨[⟨"row"⟩], none⟩

theorem findRowIndex_reads_exactly_padded :
    rosterGrid.virtualized = false ∧
    ((foundRow Page.browser.besideGrid (.ofTexts [("A", "x")])).outcome (rosterGrid, rosterPage)).1 = .ok ⟨"row"⟩ ∧
    ((Page.browser.findRowIndex (.ofTexts [("A", "x")])).outcome (rosterGrid, rosterPage)).1 = .ok 42 := by
  have lookedUp :
      ((foundRow Page.browser.besideGrid (.ofTexts [("A", "x")])).outcome (rosterGrid, rosterPage)).1 =
        .ok ⟨"row"⟩ := by
    decide +kernel
  have read : ((Page.browser.besideGrid.attribute? ⟨"row"⟩ rowIndexAttribute).outcome
      ((foundRow Page.browser.besideGrid (.ofTexts [("A", "x")])).outcome (rosterGrid, rosterPage)).2).1 =
        .ok (some " +042\n") := by
    decide +kernel
  generalize looking : (foundRow Page.browser.besideGrid (.ofTexts [("A", "x")])).outcome (rosterGrid, rosterPage) =
    outcome at lookedUp read
  obtain ⟨result, found⟩ := outcome
  obtain rfl : result = _ := lookedUp
  generalize reading : (Page.browser.besideGrid.attribute? ⟨"row"⟩ rowIndexAttribute).outcome found = outcome at read
  obtain ⟨held, final⟩ := outcome
  obtain rfl : held = _ := read
  obtain ⟨answer, ended, numbers, -⟩ := findRowIndex_reads_exactly Page.browser rosterGrid rfl
    (.ofTexts [("A", "x")]) rosterPage looking reading
  have spells : SpellsRowIndex " +042\n" 42 :=
    .numeral [' '] ['+'] ['0', '4', '2'] ['\n'] (by decide) (List.forall_mem_singleton.mpr (by decide))
      (List.forall_mem_singleton.mpr (by decide)) (.inr rfl) (by decide) (by simp) (by decide)
  refine ⟨rfl, rfl, ?_⟩
  rw [ended]
  exact (numbers 42).mpr ⟨_, rfl, spells⟩

end Grid

end Locator
