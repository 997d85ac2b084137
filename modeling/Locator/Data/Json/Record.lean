import Locator.Data.Json.Reader
import Locator.Data.Json.Writer
import Locator.Data.Record

/-!
# Records as JSON text
-/

namespace Locator.Data

set_option autoImplicit false

/-- JSON lets a list stand for a record and nests up to 127 levels where values are set aside. -/
def jsonFormat : Format := ⟨true, 127⟩

namespace Shape

variable {Record : Type}

/-- The record that a JSON text holds. -/
def ofJson? (shape : Shape Record) (defaults : Record) (text : String) : Option Record :=
  match Json.parse text with
  | none => none
  | some value => shape.read jsonFormat defaults value

/-- The record as a JSON text. -/
def toJson (shape : Shape Record) (record : Record) : String :=
  Json.write (shape.write record)

end Shape

end Locator.Data
