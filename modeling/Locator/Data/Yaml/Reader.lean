import Locator.Data.Yaml.Scalar
import Locator.Data.Yaml.Text

/-!
# Reading YAML

The part of YAML that settings are written in: one document, with block and flow collections, plain and
quoted scalars, comments and document markers. Anchors, tags, directives, block scalars and explicit
keys are refused.

A reader of a block is told the least column its content may start at, and returns the place of the next
thing that means something, which is always the first on its line. Recursion is bounded by fuel; every
call takes at least one character for four units of it.
-/

namespace Locator.Data.Yaml

set_option autoImplicit false

/-- A scalar or a bracketed collection: its value, the line it ends on, and the place after it. -/
structure Flow where
  value : Value
  line : Nat
  next : Cursor

/-- The quoted scalar that starts here. -/
def readQuoted (cursor : Cursor) : Option Flow :=
  let quoted (rest : ScalarRest) : Option Flow :=
    rest.map fun (content, next) =>
      let content := String.ofList content
      ⟨.text content, next.line, next⟩
  match cursor.rest with
  | [] => none
  | first :: rest =>
      if first = '"' then quoted (doubleQuoted cursor.line (cursor.column + 1) noGap rest)
      else if first = singleQuote then
        quoted (singleQuoted cursor.line (cursor.column + 1) noGap rest)
      else none

/-- The most bytes that a key may take in UTF-8 with the blanks after it. -/
def keyLimit : Nat := 1024

/-- The bytes that the first `count` characters take in UTF-8. -/
def bytesOf (count : Nat) (text : List Char) : Nat :=
  (text.take count).foldl (fun bytes character => bytes + character.utf8Size) 0

/-- A colon makes what starts at `start` a key: it stands on the same line and not too far away. -/
def Cursor.reaches (start colon : Cursor) : Bool :=
  colon.line == start.line && bytesOf (colon.column - start.column) start.rest ≤ keyLimit

/-- The plain scalar that starts here. -/
def readPlain (flow : Bool) (least : Nat) (cursor : Cursor) : Option Flow := do
  let (piece, rest) ← plainPiece flow [] cursor.rest
  let column := cursor.column + (cursor.rest.length - rest.length)
  let first : Plain := ⟨piece, cursor.line, ⟨rest, cursor.line, column⟩⟩
  let plain ← plainLines flow least (rest.length + 1) first
  let content := String.ofList plain.content
  return ⟨resolve content, plain.line, plain.next⟩

mutual

/-- The value that starts here inside of brackets, in a block whose content starts at column `least` or
further on. -/
def readFlow (least : Nat) : Nat → Cursor → Option Flow
  | 0, _ => none
  | fuel + 1, cursor =>
      match cursor.rest with
      | [] => none
      | first :: rest =>
          if cursor.atMarker '-' || cursor.atMarker '.' then none
          else if first = '[' then do
            let (items, next) ← readFlowItems least fuel (cursor.skip 1)
            return ⟨.list items, next.line, next⟩
          else if first = '\x7b' then do
            let (members, next) ← readFlowMembers least fuel (cursor.skip 1)
            return ⟨.record members, next.line, next⟩
          else if first = '"' ∨ first = singleQuote then readQuoted cursor
          else if startsPlain true first rest then readPlain true least cursor
          else none

/-- The value after the colon of a member inside of brackets, which may be left out. -/
def readFlowValue (least : Nat) : Nat → Cursor → Option (Value × Cursor)
  | 0, _ => none
  | fuel + 1, cursor => do
      let start := cursor.seekInFlow
      match start.rest.head? with
      | none => none
      | some first =>
          if first = ',' ∨ first = ']' ∨ first = '\x7d' then return (.empty, start)
          else
            let flow ← readFlow least fuel start
            return (flow.value, flow.next)

/-- The items up to the closing bracket. A member among them is a record of its own. -/
def readFlowItems (least : Nat) : Nat → Cursor → Option (List Value × Cursor)
  | 0, _ => none
  | fuel + 1, cursor => do
      let start := cursor.seekInFlow
      if start.rest.head? = some ']' then return ([], start.skip 1)
      let flow ← readFlow least fuel start
      let colon := flow.next.seekInFlow
      let (item, next) ←
        if colon.rest.head? = some ':' ∧ start.reaches colon then do
          let (value, next) ← readFlowValue least fuel (colon.skip 1)
          pure (Value.record [(flow.value, value)], next)
        else pure (flow.value, flow.next)
      let stop := next.seekInFlow
      match stop.rest.head? with
      | some ',' => do
          let (items, next) ← readFlowItems least fuel (stop.skip 1)
          return (item :: items, next)
      | some ']' => return ([item], stop.skip 1)
      | _ => none

/-- The members up to the closing brace. A key without a colon has no value. -/
def readFlowMembers (least : Nat) : Nat → Cursor → Option (List (Value × Value) × Cursor)
  | 0, _ => none
  | fuel + 1, cursor => do
      let start := cursor.seekInFlow
      if start.rest.head? = some '\x7d' then return ([], start.skip 1)
      let flow ← readFlow least fuel start
      let colon := flow.next.seekInFlow
      let (value, next) ←
        if colon.rest.head? = some ':' ∧ start.reaches colon then
          readFlowValue least fuel (colon.skip 1)
        else pure (Value.empty, flow.next)
      let stop := next.seekInFlow
      match stop.rest.head? with
      | some ',' => do
          let (members, next) ← readFlowMembers least fuel (stop.skip 1)
          return ((flow.value, value) :: members, next)
      | some '\x7d' => return ([(flow.value, value)], stop.skip 1)
      | _ => none

end

/-- The scalar or bracketed collection that starts here in a block. -/
def readInline (fuel least : Nat) (cursor : Cursor) : Option Flow :=
  match cursor.rest with
  | [] => none
  | first :: rest =>
      if first = '[' ∨ first = '\x7b' then readFlow least fuel cursor
      else if first = '"' ∨ first = singleQuote then readQuoted cursor
      else if startsPlain false first rest then readPlain false least cursor
      else none

/-- The place of the colon that makes what was read a key. -/
def colonAfter (start : Cursor) (flow : Flow) : Option Cursor :=
  let colon := flow.next.seek true
  if start.reaches colon ∧ colon.atIndicator ':' then some colon else none

mutual

/-- The value that starts here in a block, and the next place after it. `keys` tells whether a block
collection may start here. -/
def readBlock : Nat → (least : Nat) → (keys : Bool) → Cursor → Option (Value × Cursor)
  | 0, _, _, _ => none
  | fuel + 1, least, keys, cursor =>
      if cursor.atIndicator '-' then
        if keys then do
          let (items, next) ← readEntries fuel cursor.column false cursor
          return (.list items, next)
        else none
      else do
        let flow ← readInline fuel least cursor
        match colonAfter cursor flow with
        | some colon =>
            if keys then do
              let (members, next) ← readMembers fuel cursor.column flow.value colon
              return (.record members, next)
            else none
        | none =>
            let next := flow.next.seek (flow.next.line == flow.line)
            if next.rest.isEmpty ∨ flow.line < next.line then return (flow.value, next) else none

/-- The member with the given key, whose colon stands here, and the members after it at the same
column. -/
def readMembers :
    Nat → (column : Nat) → (key : Value) → Cursor → Option (List (Value × Value) × Cursor)
  | 0, _, _, _ => none
  | fuel + 1, column, key, colon => do
      let start := (colon.skip 1).seek true
      let (value, next) ←
        if start.atBoundary then pure (Value.empty, start)
        else if start.line = colon.line then readBlock fuel (column + 1) false start
        else if column < start.column then readBlock fuel (column + 1) true start
        else if start.column = column ∧ start.atIndicator '-' then do
          let (items, next) ← readEntries fuel column true start
          pure (Value.list items, next)
        else pure (Value.empty, start)
      if next.atBoundary ∨ next.column < column then return ([(key, value)], next)
      else if column < next.column then none
      else do
        let flow ← readInline fuel (column + 1) next
        let colon ← colonAfter next flow
        let (members, next) ← readMembers fuel column flow.value colon
        return ((key, value) :: members, next)

/-- The entry whose hyphen stands here, and the entries after it at the same column. Entries that stand
at the column of the member they belong to (`shared`) end where that column goes on without a
hyphen. -/
def readEntries : Nat → (column : Nat) → (shared : Bool) → Cursor → Option (List Value × Cursor)
  | 0, _, _, _ => none
  | fuel + 1, column, shared, hyphen => do
      let start := (hyphen.skip 1).seek false
      let (item, next) ←
        if start.atBoundary then pure (Value.empty, start)
        else if start.line = hyphen.line ∨ column < start.column then
          readBlock fuel (column + 1) true start
        else pure (Value.empty, start)
      if next.atBoundary ∨ next.column < column then return ([item], next)
      else if column < next.column then none
      else if next.atIndicator '-' then do
        let (items, next) ← readEntries fuel column shared next
        return (item :: items, next)
      else if shared then return ([item], next)
      else none

end

/-- Past document end markers and comments; true when nothing follows. -/
def nothingFollows : Nat → Cursor → Bool
  | 0, _ => false
  | fuel + 1, cursor =>
      if cursor.rest.isEmpty then true
      else if cursor.atMarker '.' then nothingFollows fuel ((cursor.skip 3).seek true)
      else false

/-- The value of a text that holds one document. -/
def parse (text : String) : Option Value := do
  let characters := uniformLines text.toList
  if !characters.all isPrintable then none
  else do
    let fuel := 4 * characters.length + 4
    let first := (Cursor.mk characters 0 0).seek false
    let explicit := first.atMarker '-'
    let start := if explicit then (first.skip 3).seek true else first
    if !explicit && first.atMarker '.' then none
    else do
      let (value, next) ←
        if start.atBoundary then pure (Value.empty, start)
        else readBlock fuel 0 (!explicit || start.line != first.line) start
      if nothingFollows fuel next then return value else none

end Locator.Data.Yaml
