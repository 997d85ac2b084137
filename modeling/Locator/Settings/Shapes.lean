import Locator.Data.Record
import Locator.Geometry
import Locator.Settings.Basic

/-!
# Settings and geometry as records of data

The key, the number type and the place of every field. The two grid timeouts are written among the
fields of the grid settings. They are set aside when they are met and read once the members are
through, which is why a negative zero is allowed for them and for no other unsigned number.
-/

namespace Locator

open Locator.Data

set_option autoImplicit false

/-- A signed 64-bit field. -/
def signedField {Record : Type} (key : String) (set : Int → Record → Record) (get : Record → Int) :
    RecordField Record :=
  .plain key Value.signed64? set fun record => .ofInt (get record)

/-- An unsigned field up to `limit`. -/
def unsignedField {Record : Type} (limit : Nat) (key : String) (set : Nat → Record → Record)
    (get : Record → Nat) : RecordField Record :=
  .plain key (Value.unsigned? limit) set fun record => .ofNat (get record)

/-- An unsigned 64-bit field that is set aside before it is read. -/
def heldField {Record : Type} (key : String) (set : Nat → Record → Record) (get : Record → Nat) :
    RecordField Record :=
  .plain key Value.heldUnsigned64? set fun record => .ofNat (get record)

namespace Rect

def shape : Shape Rect where
  complete := true
  fields :=
    [ signedField "x" (fun x rect => { rect with x }) Rect.x,
      signedField "y" (fun y rect => { rect with y }) Rect.y,
      signedField "width" (fun width rect => { rect with width }) Rect.width,
      signedField "height" (fun height rect => { rect with height }) Rect.height ]

end Rect

namespace Offset

def shape : Shape Offset where
  complete := true
  fields :=
    [ signedField "x" (fun x offset => { offset with x }) Offset.x,
      signedField "y" (fun y offset => { offset with y }) Offset.y ]

end Offset

namespace Handle

def shape : Shape Handle where
  complete := true
  fields :=
    [.plain "id" Value.text? (fun id handle => { handle with id }) fun handle => .text handle.id]

end Handle

namespace ScrollSettings

def shape : Shape ScrollSettings where
  fields :=
    [ signedField "step_px" (fun step settings => { settings with step }) ScrollSettings.step,
      unsignedField maxUnsigned32 "max_stalls"
        (fun maxStalls settings => { settings with maxStalls }) ScrollSettings.maxStalls ]

end ScrollSettings

namespace ClearSettings

def shape : Shape ClearSettings where
  fields :=
    [ unsignedField maxUnsigned32 "strict_max_tries"
        (fun strictTries settings => { settings with strictTries }) ClearSettings.strictTries,
      unsignedField maxUnsigned32 "lenient_max_tries"
        (fun lenientTries settings => { settings with lenientTries }) ClearSettings.lenientTries,
      unsignedField maxUnsigned64 "quick_clear_length"
        (fun quickLength settings => { settings with quickLength }) ClearSettings.quickLength ]

end ClearSettings

namespace DropdownSettings

def shape : Shape DropdownSettings where
  fields :=
    [ signedField "step_px" (fun step settings => { settings with step }) DropdownSettings.step,
      unsignedField maxUnsigned64 "lookup_timeout_ms"
        (fun lookupTimeout settings => { settings with lookupTimeout })
        DropdownSettings.lookupTimeout,
      unsignedField maxUnsigned64 "settle_delay_ms"
        (fun settleDelay settings => { settings with settleDelay }) DropdownSettings.settleDelay ]

end DropdownSettings

namespace GridTimeouts

/-- The timeouts by fields made with `field`: plain ones on their own, held ones inside the grid
settings. -/
def shapeWith
    (field : String → (Nat → GridTimeouts → GridTimeouts) → (GridTimeouts → Nat) →
      RecordField GridTimeouts) : Shape GridTimeouts where
  fields :=
    [ field "operation_timeout_ms" (fun during timeouts => { timeouts with during })
        GridTimeouts.during,
      field "final_timeout_ms" (fun after timeouts => { timeouts with after }) GridTimeouts.after ]

def shape : Shape GridTimeouts :=
  shapeWith (unsignedField maxUnsigned64)

def heldShape : Shape GridTimeouts :=
  shapeWith heldField

end GridTimeouts

namespace GridSettings

def shape : Shape GridSettings where
  holdsUnknown := true
  fields :=
    GridTimeouts.heldShape.flatten (fun timeouts settings => { settings with timeouts })
        GridSettings.timeouts ++
      [ unsignedField maxUnsigned64 "row_search_limit"
          (fun rowSearchLimit settings => { settings with rowSearchLimit })
          GridSettings.rowSearchLimit,
        ScrollSettings.shape.field "scroll" {} (fun scroll settings => { settings with scroll })
          GridSettings.scroll ]

end GridSettings

namespace StabilitySettings

def shape : Shape StabilitySettings where
  fields :=
    [ unsignedField maxUnsigned64 "poll_interval_ms"
        (fun pollInterval settings => { settings with pollInterval })
        StabilitySettings.pollInterval ]

end StabilitySettings

namespace Settings

def shape : Shape Settings where
  fields :=
    [ ScrollSettings.shape.field "scroll" {} (fun scroll settings => { settings with scroll })
        Settings.scroll,
      ClearSettings.shape.field "clear" {} (fun clear settings => { settings with clear })
        Settings.clear,
      DropdownSettings.shape.field "dropdown" {}
        (fun dropdown settings => { settings with dropdown }) Settings.dropdown,
      GridSettings.shape.field "grid" {} (fun grid settings => { settings with grid })
        Settings.grid,
      StabilitySettings.shape.field "stability" {}
        (fun stability settings => { settings with stability }) Settings.stability ]

end Settings

end Locator
