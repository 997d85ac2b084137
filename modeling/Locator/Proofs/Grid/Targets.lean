import Locator.Grid.Basic
import Locator.Proofs.XPath.StringReader

/-!
# What the paths of a grid are told apart by

The XPath of a row, a header cell or a cell is the XPath of the place that it is looked for in, followed by a
fixed text with the index, the title or the column id in it, written as a string. A written string shows where it
ends, so what was put in can be told from the whole text, whatever stands in front of it and behind it.
-/

namespace Locator

set_option autoImplicit false

/-! ## Texts with a string in them -/

namespace XPath

theorem literal_then_inj {value other rest rest' : String} (same : literal value ++ rest = literal other ++ rest') :
    value = other ∧ rest = rest' := by
  have texts := congrArg String.toList same
  rw [String.toList_append, String.toList_append] at texts
  obtain ⟨values, rests⟩ := literal_append_inj texts
  exact ⟨values, String.toList_inj.mp rests⟩

/-- The elements below `base` with a tag, for which two conditions hold. -/
def tagged (base : Expr) (tag : String) (first second : Expr) : Expr :=
  .descend base { axis := none, test := .name tag, predicates := [.binary .and first second] }

theorem print_tagged (base : Expr) (tag : String) (first second : Expr) :
    (tagged base tag first second).print =
      base.print ++ ("//" ++ tag ++ "[" ++ first.print ++ " and ") ++ (second.print ++ "]") := by
  simp [tagged, Expr.print, Step.print, printPredicates, NodeTest.print, Operator.printAfter, Operator.print,
    String.append_assoc]

/-- The attribute has the value. -/
def attributeIs (name value : String) : Expr :=
  .equals (attributeNamed name) (.literal value)

theorem print_attributeIs {name : String} (plain : isPlainName name = true) (value : String) :
    (attributeIs name value).print = "@" ++ name ++ "=" ++ literal value := by
  rw [attributeIs, attributeNamed, if_pos plain]
  simp [Expr.equals, Expr.print, Step.print, printPredicates, NodeTest.print, Axis.print, Operator.printAfter,
    Operator.print]

end XPath

namespace Grid

open Locator.XPath

theorem query_rowPath (grid : Grid) (index : Nat) :
    (grid.rowPath index).query =
      tagged grid.regions.content.query "div" (attributeIs "role" "row")
        (attributeIs rowIndexAttribute (toString index)) :=
  rfl

theorem query_headerPath (grid : Grid) (title : String) :
    (grid.headerPath title).query =
      tagged grid.regions.headers.query "div" (hasWord (attributeNamed "class") "ag-header-cell")
        (tagged .context "span" (attributeIs "ref" "eText") (.equals Test.aggregatedText (.literal title))) :=
  rfl

theorem query_cellPath (row : Path) (columnId : String) :
    (cellPath row columnId).query =
      tagged row.query "div" (attributeIs "role" "gridcell") (attributeIs columnIdAttribute columnId) :=
  rfl

theorem toXPath_rowPath (grid : Grid) (index : Nat) :
    (grid.rowPath index).toXPath =
      grid.regions.content.toXPath ++ "//div[@role='row' and @row-index=" ++ (literal (toString index) ++ "]") := by
  rw [Path.toXPath, query_rowPath, print_tagged, print_attributeIs rfl, print_attributeIs rfl]
  simp only [String.append_assoc]
  rfl

theorem toXPath_headerPath (grid : Grid) (title : String) :
    (grid.headerPath title).toXPath =
      grid.regions.headers.toXPath ++
        "//div[contains(concat(' ', normalize-space(@class), ' '), ' ag-header-cell ') and " ++
        ".//span[@ref='eText' and normalize-space(string(.))=" ++ (literal title ++ "]]") := by
  rw [Path.toXPath, query_headerPath, print_tagged, print_tagged, print_attributeIs rfl]
  have text : (Expr.equals Test.aggregatedText (.literal title)).print =
      "normalize-space(string(.))=" ++ literal title := rfl
  rw [text]
  simp only [String.append_assoc]
  rfl

theorem toXPath_cellPath (row : Path) (columnId : String) :
    (cellPath row columnId).toXPath =
      row.toXPath ++ "//div[@role='gridcell' and @col-id=" ++ (literal columnId ++ "]") := by
  rw [Path.toXPath, query_cellPath, print_tagged, print_attributeIs rfl, print_attributeIs rfl]
  simp only [String.append_assoc]
  rfl

/-! ## Telling apart -/

/-- The text of a row path and what follows it are the only ones that make up the whole. -/
theorem rowPath_then_inj {grid : Grid} {index other : Nat} {rest rest' : String}
    (same : (grid.rowPath index).toXPath ++ rest = (grid.rowPath other).toXPath ++ rest') :
    index = other ∧ rest = rest' := by
  rw [toXPath_rowPath, toXPath_rowPath] at same
  simp only [String.append_assoc, String.append_right_inj] at same
  obtain ⟨numerals, rests⟩ := literal_then_inj same
  have digits : Nat.toDigits 10 index = Nat.toDigits 10 other := by
    simpa using congrArg String.toList numerals
  have numbers := congrArg (Nat.ofDigitChars 10 · 0) digits
  simp only [Nat.ofDigitChars_ten_toDigits] at numbers
  exact ⟨numbers, (String.append_right_inj _).mp rests⟩

/-- Of the rows of a grid no two have the same XPath, and no two header cells, and no two cells. -/
theorem paths_told_apart (grid : Grid) :
    (∀ index other, (grid.rowPath index).toXPath = (grid.rowPath other).toXPath ↔ index = other) ∧
    (∀ title other, (grid.headerPath title).toXPath = (grid.headerPath other).toXPath ↔ title = other) ∧
    ∀ index other columnId columnId',
      (cellPath (grid.rowPath index) columnId).toXPath = (cellPath (grid.rowPath other) columnId').toXPath ↔
        index = other ∧ columnId = columnId' := by
  refine ⟨fun index other => ⟨fun same => ?_, congrArg fun index => (grid.rowPath index).toXPath⟩,
    fun title other => ⟨fun same => ?_, congrArg fun title => (grid.headerPath title).toXPath⟩,
    fun index other columnId columnId' => ⟨fun same => ?_, ?_⟩⟩
  · exact (rowPath_then_inj (congrArg (· ++ "") same)).1
  · rw [toXPath_headerPath, toXPath_headerPath] at same
    exact (literal_then_inj ((String.append_right_inj _).mp same)).1
  · simp only [toXPath_cellPath, String.append_assoc] at same
    obtain ⟨indices, cells⟩ := rowPath_then_inj same
    exact ⟨indices, (literal_then_inj ((String.append_right_inj _).mp cells)).1⟩
  · rintro ⟨rfl, rfl⟩
    rfl

end Grid

end Locator
