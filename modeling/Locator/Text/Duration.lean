/-!
# Times in words

A time is written in whole milliseconds below a second and in seconds from there on, with as many
decimals as it takes.
-/

namespace Locator.Text

set_option autoImplicit false

/-- The decimals of a fraction of a second, without the zeros at their end. -/
def secondDecimals (milliseconds : Nat) : List Char :=
  let digits := (toString (1000 + milliseconds % 1000)).toList.drop 1
  (digits.reverse.dropWhile (· == '0')).reverse

/-- A time given in milliseconds. -/
def duration (milliseconds : Nat) : String :=
  if milliseconds = 0 then "0ns"
  else if milliseconds < 1000 then toString milliseconds ++ "ms"
  else
    let decimals := secondDecimals milliseconds
    let fraction := if decimals.isEmpty then "" else "." ++ String.ofList decimals
    toString (milliseconds / 1000) ++ fraction ++ "s"

end Locator.Text
