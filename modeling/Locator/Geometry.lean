/-!
# Boxes and offsets

Positions on a page in whole pixels, measured from the top left corner. They are kept as signed 64-bit
numbers, and sums of them are not checked: one that leaves the range goes on at its other end.
-/

namespace Locator

set_option autoImplicit false

/-- The signed 64-bit number that a sum or a difference is kept as. -/
def wrapped (value : Int) : Int :=
  (value + 0x8000000000000000) % 0x10000000000000000 - 0x8000000000000000

/-- The bounding box of an element. -/
structure Rect where
  x : Int
  y : Int
  width : Int
  height : Int
  deriving DecidableEq

/-- The bottom edge. -/
def Rect.bottom (rect : Rect) : Int :=
  wrapped (rect.y + rect.height)

/-- The right edge. -/
def Rect.right (rect : Rect) : Int :=
  wrapped (rect.x + rect.width)

/-- How far the content of an element is scrolled. -/
structure Offset where
  x : Int
  y : Int
  deriving DecidableEq

/-- Not scrolled at all. -/
def Offset.zero : Offset := ⟨0, 0⟩

/-- A reference to an element that a browser has resolved. -/
structure Handle where
  id : String
  deriving DecidableEq

end Locator
