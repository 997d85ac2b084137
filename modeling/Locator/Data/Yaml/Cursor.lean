/-!
# Places in a YAML text

Indentation is what gives a block its structure, so a reader has to know the column it is at. A cursor
is the text that is left together with the line and the column it starts at.
-/

namespace Locator.Data.Yaml

set_option autoImplicit false

/-- What is left of a text, and where that starts. Lines and columns count from zero. -/
structure Cursor where
  rest : List Char
  line : Nat
  column : Nat

/-- A character that ends a line once line ends have been made uniform. -/
def lineEnd : Char := '\n'

/-- All line ends written as a line feed: carriage return with or without line feed, next line, line
separator and paragraph separator. -/
def uniformLines : List Char → List Char
  | [] => []
  | '\r' :: '\n' :: rest => lineEnd :: uniformLines rest
  | first :: rest =>
      (if first = '\r' ∨ first.toNat ∈ [0x85, 0x2028, 0x2029] then lineEnd else first) ::
        uniformLines rest

/-- The characters a YAML text may hold. -/
def isPrintable (character : Char) : Bool :=
  let code := character.toNat
  code == 0x09 || code == 0x0A || code == 0x0D || (0x20 ≤ code && code ≤ 0x7E) || code == 0x85 ||
    (0xA0 ≤ code && code ≤ 0xD7FF) || (0xE000 ≤ code && code ≤ 0xFFFD) || 0x10000 ≤ code

/-- A space or a tab. -/
def isBlank (character : Char) : Bool :=
  character == ' ' || character == '\t'

/-- True at the end of the text, at a line end and at a blank: the places where an indicator counts as
one. -/
def endsWord : List Char → Bool
  | [] => true
  | first :: _ => isBlank first || first == lineEnd

/-- `count` characters further, all on one line. -/
def Cursor.skip (cursor : Cursor) (count : Nat) : Cursor :=
  { cursor with rest := cursor.rest.drop count, column := cursor.column + count }

/-- The byte order mark, which may stand at the start of any line and takes a column there. -/
def orderMark : Char := '\ufeff'

/-- Past blanks and line ends, comments included, to the next character that means something. Tabs are
passed only where no indentation is counted: anywhere inside brackets (`free`), and else up to the end
of the line that `tabs` allows them on. -/
def seekFrom (free : Bool) : (tabs comment : Bool) → (line column : Nat) → List Char → Cursor
  | _, _, line, column, [] => ⟨[], line, column⟩
  | tabs, comment, line, column, first :: rest =>
      if first = lineEnd then seekFrom free free false (line + 1) 0 rest
      else if comment then seekFrom free tabs true line (column + 1) rest
      else if first = ' ' ∨ (first = '\t' ∧ tabs) then
        seekFrom free tabs false line (column + 1) rest
      else if first = '#' then seekFrom free tabs true line (column + 1) rest
      else if first = orderMark ∧ column = 0 then seekFrom free tabs false line 1 rest
      else ⟨first :: rest, line, column⟩

/-- `seekFrom` at a cursor, outside of brackets. -/
def Cursor.seek (tabs : Bool) (cursor : Cursor) : Cursor :=
  seekFrom false tabs false cursor.line cursor.column cursor.rest

/-- `seekFrom` at a cursor, inside of brackets. -/
def Cursor.seekInFlow (cursor : Cursor) : Cursor :=
  seekFrom true true false cursor.line cursor.column cursor.rest

/-- The marker of three equal characters that starts or ends a document stands here. -/
def Cursor.atMarker (mark : Char) (cursor : Cursor) : Bool :=
  match cursor.column, cursor.rest with
  | 0, first :: second :: third :: rest =>
      first == mark && second == mark && third == mark && endsWord rest
  | _, _ => false

/-- A document starts or ends here, or the text does. -/
def Cursor.atBoundary (cursor : Cursor) : Bool :=
  cursor.rest.isEmpty || cursor.atMarker '-' || cursor.atMarker '.'

/-- The character `indicator` stands here as a word of its own. -/
def Cursor.atIndicator (indicator : Char) (cursor : Cursor) : Bool :=
  match cursor.rest with
  | first :: rest => first == indicator && endsWord rest
  | [] => false

end Locator.Data.Yaml
