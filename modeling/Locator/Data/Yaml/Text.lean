import Locator.Data.Yaml.Cursor
import Locator.Text.Numeral

/-!
# Scalars in a YAML text

Quoted and plain scalars may run over several lines. A single line end between two words is read as a
blank, further ones as line feeds, and the blanks around them are dropped.
-/

namespace Locator.Data.Yaml

open Locator.Text

set_option autoImplicit false

/-- What lies between two characters of a scalar. -/
inductive Gap where
  /-- Blanks on one line, or nothing. -/
  | blanks (run : List Char)
  /-- One line end and `more` further ones. -/
  | folded (more : Nat)
  /-- An escaped line end and `more` further ones. -/
  | joined (more : Nat)

namespace Gap

/-- What the gap is read as. -/
def content : Gap → List Char
  | .blanks run => run
  | .folded 0 => [' ']
  | .folded more => List.replicate more lineEnd
  | .joined more => List.replicate more lineEnd

/-- The gap with one more line end. -/
def breakLine : Gap → Gap
  | .blanks _ => .folded 0
  | .folded more => .folded (more + 1)
  | .joined more => .joined (more + 1)

/-- The gap with one more blank. Blanks next to a line end are dropped. -/
def addBlank (blank : Char) : Gap → Gap
  | .blanks run => .blanks (run ++ [blank])
  | gap => gap

end Gap

/-- No gap at all. -/
def noGap : Gap := .blanks []

/-- What a scalar goes on with: its characters and the place after it. -/
abbrev ScalarRest := Option (List Char × Cursor)

/-- Puts the gap and a character in front of the rest of a scalar. -/
def ScalarRest.cons (gap : Gap) (character : Char) (rest : ScalarRest) : ScalarRest :=
  rest.map fun (content, cursor) => (gap.content ++ character :: content, cursor)

/-- The character that a one-letter escape in double quotes stands for. -/
def escaped? : Char → Option Char
  | '0' => some '\x00'
  | 'a' => some '\x07'
  | 'b' => some '\x08'
  | 't' => some '\t'
  | '\t' => some '\t'
  | 'n' => some '\n'
  | 'v' => some '\x0b'
  | 'f' => some '\x0c'
  | 'r' => some '\r'
  | 'e' => some '\x1b'
  | ' ' => some ' '
  | '"' => some '"'
  | '/' => some '/'
  | '\\' => some '\\'
  | 'N' => some '\u0085'
  | '_' => some '\u00a0'
  | 'L' => some '\u2028'
  | 'P' => some '\u2029'
  | _ => none

/-- The character with the code point spelled by hexadecimal digits; surrogates are none. -/
def codePoint? (digits : List Char) : Option Char :=
  match numeral? 16 digits with
  | none => none
  | some code => if code.isValidChar then some (Char.ofNat code) else none

/-- A document starts or ends inside a scalar, which then cannot be closed. -/
def breaksOff (column : Nat) (rest : List Char) : Bool :=
  let cursor : Cursor := ⟨rest, 0, column⟩
  cursor.atMarker '-' || cursor.atMarker '.'

/-- The rest of a double-quoted scalar. -/
def doubleQuoted (line column : Nat) (gap : Gap) : List Char → ScalarRest
  | [] => none
  | '\\' :: 'x' :: a :: b :: rest =>
      match codePoint? [a, b] with
      | none => none
      | some character => .cons gap character (doubleQuoted line (column + 4) noGap rest)
  | '\\' :: 'u' :: a :: b :: c :: d :: rest =>
      match codePoint? [a, b, c, d] with
      | none => none
      | some character => .cons gap character (doubleQuoted line (column + 6) noGap rest)
  | '\\' :: 'U' :: a :: b :: c :: d :: e :: f :: g :: h :: rest =>
      match codePoint? [a, b, c, d, e, f, g, h] with
      | none => none
      | some character => .cons gap character (doubleQuoted line (column + 10) noGap rest)
  | '\\' :: letter :: rest =>
      if letter = lineEnd then
        (doubleQuoted (line + 1) 0 (.joined 0) rest).map fun (content, cursor) =>
          (gap.content ++ content, cursor)
      else
        match escaped? letter with
        | none => none
        | some character => .cons gap character (doubleQuoted line (column + 2) noGap rest)
  | first :: rest =>
      if first = lineEnd then doubleQuoted (line + 1) 0 gap.breakLine rest
      else if isBlank first then doubleQuoted line (column + 1) (gap.addBlank first) rest
      else if breaksOff column (first :: rest) then none
      else if first = '"' then some (gap.content, ⟨rest, line, column + 1⟩)
      else .cons gap first (doubleQuoted line (column + 1) noGap rest)

/-- The single quote. -/
def singleQuote : Char := '\x27'

/-- The rest of a single-quoted scalar, in which a quote is written twice. -/
def singleQuoted (line column : Nat) (gap : Gap) : List Char → ScalarRest
  | [] => none
  | first :: second :: rest =>
      if first = singleQuote ∧ second = singleQuote then
        .cons gap singleQuote (singleQuoted line (column + 2) noGap rest)
      else if first = lineEnd then singleQuoted (line + 1) 0 gap.breakLine (second :: rest)
      else if isBlank first then singleQuoted line (column + 1) (gap.addBlank first) (second :: rest)
      else if breaksOff column (first :: second :: rest) then none
      else if first = singleQuote then some (gap.content, ⟨second :: rest, line, column + 1⟩)
      else .cons gap first (singleQuoted line (column + 1) noGap (second :: rest))
  | [last] => if last = singleQuote then some (gap.content, ⟨[], line, column + 1⟩) else none

/-- The indicators that end a plain scalar inside of brackets. -/
def flowIndicators : List Char := [',', '[', ']', '\x7b', '\x7d']

/-- True when a plain scalar may start with `first`. -/
def startsPlain (flow : Bool) (first : Char) (rest : List Char) : Bool :=
  if first = '-' then !endsWord rest
  else if first = '?' ∨ first = ':' then !flow && !endsWord rest
  else !("-?:,[]\x7b\x7d#&*!|>\x27\"%@\x60 \t\n".toList.contains first)

/-- The part of a plain scalar that is on one line, and what follows it. `blanks` are blanks met since
its last character. A colon ends it in front of a blank, a hash after one. -/
def plainPiece (flow : Bool) (blanks : List Char) : List Char → Option (List Char × List Char)
  | [] => some ([], [])
  | first :: rest =>
      if first = lineEnd then some ([], first :: rest)
      else if isBlank first then plainPiece flow (blanks ++ [first]) rest
      else if first = '#' ∧ blanks ≠ [] then some ([], first :: rest)
      else if first = ':' ∧ flow ∧ (rest.head?.any ('?' :: flowIndicators).contains) then none
      else if first = ':' ∧ endsWord rest then some ([], first :: rest)
      else if flow ∧ flowIndicators.contains first then some ([], first :: rest)
      else
        (plainPiece flow [] rest).map fun (piece, rest) => (blanks ++ first :: piece, rest)

/-- Past the line ends and blanks after a line of a plain scalar: the gap and the next character's
place. A tab where indentation is counted is refused, inside of brackets too. -/
def plainGap (least : Nat) : Gap → (line column : Nat) → List Char → Option (Gap × Cursor)
  | gap, line, column, [] => some (gap, ⟨[], line, column⟩)
  | gap, line, column, first :: rest =>
      if first = lineEnd then plainGap least gap.breakLine (line + 1) 0 rest
      else if first = '\t' ∧ column < least then none
      else if isBlank first then plainGap least gap line (column + 1) rest
      else some (gap, ⟨first :: rest, line, column⟩)

/-- A plain scalar read so far: its content, the line it ends on, and the place of the next character
after it that is no blank. -/
structure Plain where
  content : List Char
  line : Nat
  next : Cursor

/-- The lines of a plain scalar after the first. In a block they are indented to column `least` at
least; `flow` tells that the scalar is inside of brackets. -/
def plainLines (flow : Bool) (least : Nat) : Nat → Plain → Option Plain
  | 0, plain => some plain
  | fuel + 1, plain => do
      let stop := plain.next
      if stop.rest.head? ≠ some lineEnd then return plain
      let (gap, next) ← plainGap least noGap stop.line stop.column stop.rest
      let ended : Plain := { plain with next }
      if next.atBoundary ∨ (!flow ∧ next.column < least) ∨ next.rest.head? = some '#' then
        return ended
      let (piece, rest) ← plainPiece flow [] next.rest
      if piece.isEmpty then return ended
      let column := next.column + (next.rest.length - rest.length)
      plainLines flow least fuel
        { content := plain.content ++ gap.content ++ piece
          line := next.line
          next := ⟨rest, next.line, column⟩ }

end Locator.Data.Yaml
