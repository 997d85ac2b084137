import Locator.Data.Value
import Locator.Geometry

/-!
# Edges within 64 bits

A sum that is a signed 64-bit number is kept as it is. A box has its edges where they should be if no sum for
them leaves that range.
-/

namespace Locator

open Locator.Data

set_option autoImplicit false

def IsSigned64 (value : Int) : Prop :=
  minSigned64 ≤ value ∧ value ≤ maxSigned64

instance (value : Int) : Decidable (IsSigned64 value) :=
  inferInstanceAs (Decidable (_ ∧ _))

variable {value : Int}

theorem isSigned64_iff : IsSigned64 value ↔ -0x8000000000000000 ≤ value ∧ value < 0x8000000000000000 := by
  unfold IsSigned64 minSigned64 maxSigned64
  omega

theorem IsSigned64.wrapped_eq (kept : IsSigned64 value) : wrapped value = value := by
  rw [isSigned64_iff] at kept
  unfold wrapped
  omega

/-- The box of an element whose container is scrolled to an offset. -/
def Rect.shifted (rect : Rect) (offset : Offset) : Rect :=
  { rect with x := rect.x - offset.x, y := rect.y - offset.y }

/-- No edge of the box leaves the 64-bit range. -/
structure Rect.EdgesKept (rect : Rect) : Prop where
  left : IsSigned64 rect.x
  top : IsSigned64 rect.y
  right : IsSigned64 (rect.x + rect.width)
  bottom : IsSigned64 (rect.y + rect.height)

namespace Rect.EdgesKept

variable {rect : Rect}

theorem right_eq (kept : rect.EdgesKept) : rect.right = rect.x + rect.width :=
  kept.right.wrapped_eq

theorem bottom_eq (kept : rect.EdgesKept) : rect.bottom = rect.y + rect.height :=
  kept.bottom.wrapped_eq

end Rect.EdgesKept

end Locator
