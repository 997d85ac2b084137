import Locator.XPath.Expr
import Locator.XPath.Lexical

/-!
# Conditions on strings

XPath 1.0 has neither a test for list membership, nor one for the end of a string, nor patterns. The
expressions here say all three with the functions it does have.
-/

namespace Locator.XPath

open Locator.Text

set_option autoImplicit false

/-- The attribute with this name. A name that is not plain is compared as a string. -/
def attributeNamed (name : String) : Expr :=
  if isPlainName name then
    .step { axis := some .attributes, test := .name name, predicates := [] }
  else
    .step
      { axis := some .attributes
        test := .principal
        predicates := [.equals (.call .localName []) (.literal name)] }

/-- `subject`, split at white space, has `word`: with one blank put around every word, the word with its
blanks is part of it. -/
def hasWord (subject : Expr) (word : String) : Expr :=
  .call .contains
    [.call .concat [.literal " ", .call .normalizeSpace [subject], .literal " "],
      .literal (" " ++ word ++ " ")]

/-- `subject` contains `value`. -/
def contains (subject : Expr) (value : String) : Expr :=
  .call .contains [subject, .literal value]

/-- `subject` starts with `value`. -/
def startsWith (subject : Expr) (value : String) : Expr :=
  .call .startsWith [subject, .literal value]

/-- `subject` ends with `value`: its last characters, as many as `value` has, are `value`. -/
def endsWith (subject : Expr) (value : String) : Expr :=
  .equals
    (.call .substring
      [subject,
        .binary .plus
          (.binary .minus (.call .stringLength [subject]) (.number value.toList.length))
          (.number 1)])
    (.literal value)

/-- The conditions for the pieces of a pattern after its first star, with the text that is still to be
matched. Each piece but the last is looked for as early as possible; the last one must end the text. -/
def wildcardRest (rest : Expr) : List String → List Expr
  | [] => []
  | [last] => if last.isEmpty then [] else [endsWith rest last]
  | piece :: pieces =>
      if piece.isEmpty then wildcardRest rest pieces
      else
        contains rest piece ::
          wildcardRest (.call .substringAfter [rest, .literal piece]) pieces

/-- `subject` matches `pattern`, in which `*` stands for any run of characters. Pieces between stars are
matched from left to right, each after the one before it, so matches never overlap. -/
def wildcard (subject : Expr) (pattern : String) : Expr :=
  match (cut '*' pattern.toList).map String.ofList with
  | [] => .equals subject (.literal pattern)
  | [_] => .equals subject (.literal pattern)
  | first :: pieces =>
      let conditions :=
        if first.isEmpty then wildcardRest subject pieces
        else
          startsWith subject first ::
            wildcardRest (.call .substring [subject, .number (first.toList.length + 1)]) pieces
      .joined .and (.call .true []) conditions

end Locator.XPath
