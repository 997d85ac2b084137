import Locator.Data.Value

/-!
# Records as data values

A record type is described once, by its fields: how each is read, and how it is written. Reading starts
from given defaults and replaces the fields that a value names. Keys that name no field are skipped; a
field that is named twice is refused.
-/

namespace Locator.Data

set_option autoImplicit false

/-- What the format of a document decides about reading records from it. -/
structure Format where
  /-- A list stands for a record: its items are the fields in order. -/
  listsAsRecords : Bool
  /-- How many levels a value that is set aside may nest. -/
  room : Nat

/-- The same format one level further down. -/
def Format.deeper (format : Format) : Format :=
  { format with room := format.room - 1 }

/-- One field of the record type `Record`. -/
structure RecordField (Record : Type) where
  key : String
  /-- The record with the field replaced by what the value says. -/
  read : Format → Value → Record → Option Record
  /-- The field of a record as a value. -/
  write : Record → Value

/-- A field that is read without regard to the format. -/
def RecordField.plain {Record Content : Type} (key : String) (read : Value → Option Content)
    (set : Content → Record → Record) (write : Record → Value) : RecordField Record where
  key
  read _ value record := (read value).map (set · record)
  write

/-- How a record type is read and written. -/
structure Shape (Record : Type) where
  fields : List (RecordField Record)
  /-- Every field has to be there. -/
  complete : Bool := false
  /-- Members that name no field are set aside before they are dropped, so they have to be readable in
  full. Such a record is never written as a list. -/
  holdsUnknown : Bool := false

namespace Shape

variable {Record : Type}

/-- The field that a key names. -/
def fieldNamed? (shape : Shape Record) (key : Value) : Option (RecordField Record) :=
  match key with
  | .text name => shape.fields.find? (·.key == name)
  | _ => none

/-- Reads members in order. `seen` lists the fields that have been named. -/
def readMembers (shape : Shape Record) (format : Format) :
    List String → Record → List (Value × Value) → Option (Record × List String)
  | seen, record, [] => some (record, seen)
  | seen, record, (key, value) :: others =>
      if !key.isName then none
      else
        match shape.fieldNamed? key with
        | none =>
            if shape.holdsUnknown && !value.holdable format.room then none
            else shape.readMembers format seen record others
        | some field =>
            if seen.contains field.key then none
            else
              match field.read format value record with
              | none => none
              | some record => shape.readMembers format (field.key :: seen) record others

/-- Reads items in the order of the fields; the last fields may be left out if the record has
defaults. -/
def readItems (format : Format) (complete : Bool) :
    List (RecordField Record) → Record → List Value → Option Record
  | [], record, [] => some record
  | [], _, _ :: _ => none
  | _ :: _, record, [] => if complete then none else some record
  | field :: fields, record, item :: items =>
      match field.read format item record with
      | none => none
      | some record => readItems format complete fields record items

/-- Reads a record. A value that is not there at all stands for a record without members. -/
def read (shape : Shape Record) (format : Format) (defaults : Record) (value : Value) :
    Option Record :=
  let inner := format.deeper
  match value with
  | .empty => if shape.complete then none else some defaults
  | .record members =>
      match shape.readMembers inner [] defaults members with
      | none => none
      | some (record, seen) =>
          if shape.complete && !(shape.fields.all fun field => seen.contains field.key) then none
          else some record
  | .list items =>
      if format.listsAsRecords && !shape.holdsUnknown then
        readItems inner shape.complete shape.fields defaults items
      else none
  | _ => none

/-- Writes a record with all its fields, in order. -/
def write (shape : Shape Record) (record : Record) : Value :=
  .record (shape.fields.map fun field => (.text field.key, field.write record))

/-- A record as a field of another one. -/
def field {Outer : Type} (shape : Shape Record) (key : String) (defaults : Record)
    (set : Record → Outer → Outer) (get : Outer → Record) : RecordField Outer where
  key
  read format value outer := (shape.read format defaults value).map (set · outer)
  write outer := shape.write (get outer)

/-- The fields of a part that are written among the fields of the whole. -/
def flatten {Outer : Type} (shape : Shape Record) (set : Record → Outer → Outer)
    (get : Outer → Record) : List (RecordField Outer) :=
  shape.fields.map fun field =>
    { key := field.key
      read := fun format value outer => (field.read format value (get outer)).map (set · outer)
      write := fun outer => field.write (get outer) }

end Shape

end Locator.Data
