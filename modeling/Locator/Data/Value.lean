/-!
# Data values

The tree that a JSON or YAML document is read into. It keeps what the two formats tell apart and what
settings are read from: members stay in order with repetitions, whole numbers stay apart from numbers
written with a fraction or an exponent, and nothing written at all stays apart from an explicit null.
-/

namespace Locator.Data

set_option autoImplicit false

/-- A value of a document. -/
inductive Value where
  /-- Nothing is written where a value could stand. -/
  | empty
  | null
  | bool (value : Bool)
  /-- A whole number by sign and magnitude, so that a negative zero keeps its sign. -/
  | integer (negative : Bool) (magnitude : Nat)
  /-- A number that is not read as a whole one: about `digits · 10 ^ exponent` under the sign. Of its
  digits as many are kept as fit 64 bits. -/
  | decimal (negative : Bool) (digits : Nat) (exponent : Int)
  | text (content : String)
  /-- Text whose escapes do not make up Unicode characters. -/
  | garbled
  | list (items : List Value)
  /-- Members in the order written. -/
  | record (members : List (Value × Value))

/-- The smallest and largest numbers of the integer types that settings are kept in. -/
def maxUnsigned64 : Nat := 0xFFFFFFFFFFFFFFFF

def maxUnsigned32 : Nat := 0xFFFFFFFF

def minSigned64 : Int := -0x8000000000000000

def maxSigned64 : Int := 0x7FFFFFFFFFFFFFFF

/-- Numbers from here on do not round to a finite double: the midpoint between the largest double and the
next power of two. -/
def doubleLimit : Nat := Nat.pow 2 1024 - Nat.pow 2 970

/-- The number of 53 significant bits that is nearest to `value`, of two the even one. -/
def nearestDouble (value : Nat) : Nat :=
  let unit := Nat.pow 2 (value.log2 + 1 - 53)
  let low := value / unit
  let twice := 2 * (value % unit)
  if unit < twice ∨ (unit = twice ∧ low % 2 = 1) then (low + 1) * unit else low * unit

/-- True when a number can be made up as a double: the product of the doubles nearest to its digits and
to its power of ten has to be finite. Powers of ten beyond those that are doubles do for zero only. -/
def decimalIsFinite (digits : Nat) (exponent : Int) : Bool :=
  if digits = 0 ∨ exponent < 0 then true
  else if 308 < exponent then false
  else decide (nearestDouble digits * nearestDouble (Nat.pow 10 exponent.natAbs) < doubleLimit)

namespace Value

/-- The whole number `value`. -/
def ofInt (value : Int) : Value :=
  .integer (decide (value < 0)) value.natAbs

/-- The whole number `value`. -/
def ofNat (value : Nat) : Value :=
  .integer false value

/-- The signed 64-bit integer that the value is. A negative zero is zero. -/
def signed64? : Value → Option Int
  | .integer negative magnitude =>
      let value : Int := if negative then -(magnitude : Int) else magnitude
      if minSigned64 ≤ value ∧ value ≤ maxSigned64 then some value else none
  | _ => none

/-- The unsigned integer up to `limit` that the value is. A sign is refused, even before zero. -/
def unsigned? (limit : Nat) : Value → Option Nat
  | .integer false magnitude => if magnitude ≤ limit then some magnitude else none
  | _ => none

/-- The unsigned 64-bit integer that the value is, once the value has been set aside as a number of its
own: by then a negative zero is zero. -/
def heldUnsigned64? : Value → Option Nat
  | .integer false magnitude => if magnitude ≤ maxUnsigned64 then some magnitude else none
  | .integer true 0 => some 0
  | _ => none

/-- The text that the value is. -/
def text? : Value → Option String
  | .text content => some content
  | _ => none

/-- True of the values that can be the key of a field: readable ones that are neither list nor record. -/
def isName : Value → Bool
  | .garbled | .list _ | .record _ => false
  | _ => true

mutual

/-- Whether the value can be set aside to be looked at later. That takes a full reading: every text has
to be Unicode, every number has to fit a machine number, and no more than `room` levels may nest. -/
def holdable (room : Nat) : Value → Bool
  | .empty | .null | .bool _ | .text _ => true
  | .integer negative magnitude =>
      decide (magnitude ≤ if negative then minSigned64.natAbs else maxUnsigned64)
  | .decimal _ digits exponent => decimalIsFinite digits exponent
  | .garbled => false
  | .list items => decide (0 < room) && itemsHoldable (room - 1) items
  | .record members => decide (0 < room) && membersHoldable (room - 1) members

/-- `holdable` for every item. -/
def itemsHoldable (room : Nat) : List Value → Bool
  | [] => true
  | first :: others => first.holdable room && itemsHoldable room others

/-- `holdable` for every member, the key included. -/
def membersHoldable (room : Nat) : List (Value × Value) → Bool
  | [] => true
  | (key, value) :: others =>
      key.holdable room && value.holdable room && membersHoldable room others

end

end Value

end Locator.Data
