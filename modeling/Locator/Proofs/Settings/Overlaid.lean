import Locator.Proofs.Data.Json.Values
import Locator.Proofs.Data.Overlays
import Locator.Proofs.Settings.Restored

/-!
# A document of settings overlays the defaults

The settings that a JSON text holds are the defaults with the numbers of the document in their places, in whatever
order it has them. A known name given twice and a number out of place make the text unreadable.
-/

namespace Locator

open Locator.Data

set_option autoImplicit false

variable {Record : Type}

/-! ## Numbers -/

theorem signedField_lays {key : String} {set : Int → Record → Record} {get : Record → Int} :
    (signedField key set get).Lays (.number key minSigned64 maxSigned64 id set) :=
  .plain fun value _ => by cases value <;> rfl

/-- A sign is refused. That leaves no number of the range out, because a regular number with a sign is not zero. -/
theorem unsignedField_lays {limit : Nat} {key : String} {set : Nat → Record → Record} {get : Record → Nat} :
    (unsignedField limit key set get).Lays (.number key 0 limit Int.toNat set) :=
  .plain fun value regular => by
    cases value with
    | integer negative magnitude =>
        cases negative with
        | false => simp [Value.unsigned?, Value.whole?]
        | true => simp [Value.unsigned?, Value.whole?, regular.ne_zero]
    | _ => rfl

theorem heldField_lays {key : String} {set : Nat → Record → Record} {get : Record → Nat} :
    (heldField key set get).Lays (.number key 0 maxUnsigned64 Int.toNat set) :=
  .plain fun value regular => by
    cases value with
    | integer negative magnitude =>
        cases negative with
        | false => simp [Value.heldUnsigned64?, Value.whole?]
        | true => simp [Value.heldUnsigned64?, Value.whole?, regular.ne_zero]
    | _ => rfl

/-! ## Sections

For each record of settings: what a document has to hold for it, the layers that it is read by, and the record that
the members given for it, if any are, make up over the defaults. -/

/-- The range of a signed field. -/
def signedRange : Schema :=
  .integer minSigned64 maxSigned64

/-- The range of an unsigned field. -/
def unsignedRange (limit : Nat) : Schema :=
  .integer 0 limit

namespace ScrollSettings

def schema : Schema :=
  .record false [("step_px", signedRange), ("max_stalls", unsignedRange maxUnsigned32)]

def layers : List (Layer ScrollSettings) :=
  [ .number "step_px" minSigned64 maxSigned64 id fun step settings => { settings with step },
    .number "max_stalls" 0 maxUnsigned32 Int.toNat fun maxStalls settings => { settings with maxStalls } ]

def overlaid (given : Option Value) : ScrollSettings :=
  let defaults : ScrollSettings := {}
  { step := (given.bind (·.number? "step_px")).getD defaults.step
    maxStalls := ((given.bind (·.number? "max_stalls")).map Int.toNat).getD defaults.maxStalls }

theorem lays : shape.Lays schema (Layer.lay layers) :=
  .of_fields layers rfl (.cons signedField_lays (.cons unsignedField_lays .nil)) (by decide)
    (by simp [layers, Layer.number, Layer.part_apart])

theorem lay_eq (given : Option Value) : (given.map (Layer.lay layers · {})).getD {} = overlaid given := by
  cases given with
  | none => rfl
  | some document =>
      rw [Option.map_some, Option.getD_some]
      rw [layers, Layer.lay_cons_number ScrollSettings.step fun _ => rfl,
        Layer.lay_cons_number ScrollSettings.maxStalls fun _ => rfl, Option.map_id]
      rfl

end ScrollSettings

namespace ClearSettings

def schema : Schema :=
  .record false
    [("strict_max_tries", unsignedRange maxUnsigned32), ("lenient_max_tries", unsignedRange maxUnsigned32),
      ("quick_clear_length", unsignedRange maxUnsigned64)]

def layers : List (Layer ClearSettings) :=
  [ .number "strict_max_tries" 0 maxUnsigned32 Int.toNat fun strictTries settings => { settings with strictTries },
    .number "lenient_max_tries" 0 maxUnsigned32 Int.toNat
      fun lenientTries settings => { settings with lenientTries },
    .number "quick_clear_length" 0 maxUnsigned64 Int.toNat
      fun quickLength settings => { settings with quickLength } ]

def overlaid (given : Option Value) : ClearSettings :=
  let defaults : ClearSettings := {}
  { strictTries := ((given.bind (·.number? "strict_max_tries")).map Int.toNat).getD defaults.strictTries
    lenientTries := ((given.bind (·.number? "lenient_max_tries")).map Int.toNat).getD defaults.lenientTries
    quickLength := ((given.bind (·.number? "quick_clear_length")).map Int.toNat).getD defaults.quickLength }

theorem lays : shape.Lays schema (Layer.lay layers) :=
  .of_fields layers rfl (.cons unsignedField_lays (.cons unsignedField_lays (.cons unsignedField_lays .nil)))
    (by decide) (by simp [layers, Layer.number, Layer.part_apart])

theorem lay_eq (given : Option Value) : (given.map (Layer.lay layers · {})).getD {} = overlaid given := by
  cases given with
  | none => rfl
  | some document =>
      rw [Option.map_some, Option.getD_some]
      rw [layers, Layer.lay_cons_number ClearSettings.strictTries fun _ => rfl,
        Layer.lay_cons_number ClearSettings.lenientTries fun _ => rfl,
        Layer.lay_cons_number ClearSettings.quickLength fun _ => rfl]
      rfl

end ClearSettings

namespace DropdownSettings

def schema : Schema :=
  .record false
    [("step_px", signedRange), ("lookup_timeout_ms", unsignedRange maxUnsigned64),
      ("settle_delay_ms", unsignedRange maxUnsigned64)]

def layers : List (Layer DropdownSettings) :=
  [ .number "step_px" minSigned64 maxSigned64 id fun step settings => { settings with step },
    .number "lookup_timeout_ms" 0 maxUnsigned64 Int.toNat
      fun lookupTimeout settings => { settings with lookupTimeout },
    .number "settle_delay_ms" 0 maxUnsigned64 Int.toNat fun settleDelay settings => { settings with settleDelay } ]

def overlaid (given : Option Value) : DropdownSettings :=
  let defaults : DropdownSettings := {}
  { step := (given.bind (·.number? "step_px")).getD defaults.step
    lookupTimeout := ((given.bind (·.number? "lookup_timeout_ms")).map Int.toNat).getD defaults.lookupTimeout
    settleDelay := ((given.bind (·.number? "settle_delay_ms")).map Int.toNat).getD defaults.settleDelay }

theorem lays : shape.Lays schema (Layer.lay layers) :=
  .of_fields layers rfl (.cons signedField_lays (.cons unsignedField_lays (.cons unsignedField_lays .nil)))
    (by decide) (by simp [layers, Layer.number, Layer.part_apart])

theorem lay_eq (given : Option Value) : (given.map (Layer.lay layers · {})).getD {} = overlaid given := by
  cases given with
  | none => rfl
  | some document =>
      rw [Option.map_some, Option.getD_some]
      rw [layers, Layer.lay_cons_number DropdownSettings.step fun _ => rfl,
        Layer.lay_cons_number DropdownSettings.lookupTimeout fun _ => rfl,
        Layer.lay_cons_number DropdownSettings.settleDelay fun _ => rfl, Option.map_id]
      rfl

end DropdownSettings

namespace GridSettings

/-- The two timeouts stand beside the other members. To tell them from members of no meaning, all of these are read
in full. -/
def schema : Schema :=
  .record true
    [("operation_timeout_ms", unsignedRange maxUnsigned64), ("final_timeout_ms", unsignedRange maxUnsigned64),
      ("row_search_limit", unsignedRange maxUnsigned64), ("scroll", ScrollSettings.schema)]

def layers : List (Layer GridSettings) :=
  [ .number "operation_timeout_ms" 0 maxUnsigned64 Int.toNat
      fun during settings => { settings with timeouts := { settings.timeouts with during } },
    .number "final_timeout_ms" 0 maxUnsigned64 Int.toNat
      fun after settings => { settings with timeouts := { settings.timeouts with after } },
    .number "row_search_limit" 0 maxUnsigned64 Int.toNat
      fun rowSearchLimit settings => { settings with rowSearchLimit },
    .nested "scroll" ScrollSettings.schema (Layer.lay ScrollSettings.layers · {})
      fun scroll settings => { settings with scroll } ]

def overlaid (given : Option Value) : GridSettings :=
  let defaults : GridSettings := {}
  { timeouts :=
      { during :=
          ((given.bind (·.number? "operation_timeout_ms")).map Int.toNat).getD defaults.timeouts.during
        after := ((given.bind (·.number? "final_timeout_ms")).map Int.toNat).getD defaults.timeouts.after }
    rowSearchLimit := ((given.bind (·.number? "row_search_limit")).map Int.toNat).getD defaults.rowSearchLimit
    scroll := ScrollSettings.overlaid (given.bind (·.member? "scroll")) }

theorem lays : shape.Lays schema (Layer.lay layers) :=
  .of_fields layers rfl
    (.cons (.flattened heldField_lays fun _ => rfl) (.cons (.flattened heldField_lays fun _ => rfl)
      (.cons unsignedField_lays (.cons (Shape.field_lays ScrollSettings.lays) .nil))))
    (by decide) (by simp [layers, Layer.number, Layer.nested, Layer.part_apart])

theorem lay_eq (given : Option Value) : (given.map (Layer.lay layers · {})).getD {} = overlaid given := by
  cases given with
  | none => rfl
  | some document =>
      rw [Option.map_some, Option.getD_some, overlaid, ← ScrollSettings.lay_eq]
      rw [layers, Layer.lay_cons_number (fun settings : GridSettings => settings.timeouts.during) fun _ => rfl,
        Layer.lay_cons_number (fun settings : GridSettings => settings.timeouts.after) fun _ => rfl,
        Layer.lay_cons_number GridSettings.rowSearchLimit fun _ => rfl,
        Layer.lay_cons_nested GridSettings.scroll fun _ => rfl]
      rfl

end GridSettings

namespace StabilitySettings

def schema : Schema :=
  .record false [("poll_interval_ms", unsignedRange maxUnsigned64)]

def layers : List (Layer StabilitySettings) :=
  [ .number "poll_interval_ms" 0 maxUnsigned64 Int.toNat
      fun pollInterval settings => { settings with pollInterval } ]

def overlaid (given : Option Value) : StabilitySettings :=
  let defaults : StabilitySettings := {}
  { pollInterval := ((given.bind (·.number? "poll_interval_ms")).map Int.toNat).getD defaults.pollInterval }

theorem lays : shape.Lays schema (Layer.lay layers) :=
  .of_fields layers rfl (.cons unsignedField_lays .nil) (by decide) (by simp [layers])

theorem lay_eq (given : Option Value) : (given.map (Layer.lay layers · {})).getD {} = overlaid given := by
  cases given with
  | none => rfl
  | some document =>
      rw [Option.map_some, Option.getD_some]
      rw [layers, Layer.lay_cons_number StabilitySettings.pollInterval fun _ => rfl]
      rfl

end StabilitySettings

namespace Settings

def schema : Schema :=
  .record false
    [("scroll", ScrollSettings.schema), ("clear", ClearSettings.schema), ("dropdown", DropdownSettings.schema),
      ("grid", GridSettings.schema), ("stability", StabilitySettings.schema)]

def layers : List (Layer Settings) :=
  [ .nested "scroll" ScrollSettings.schema (Layer.lay ScrollSettings.layers · {})
      fun scroll settings => { settings with scroll },
    .nested "clear" ClearSettings.schema (Layer.lay ClearSettings.layers · {})
      fun clear settings => { settings with clear },
    .nested "dropdown" DropdownSettings.schema (Layer.lay DropdownSettings.layers · {})
      fun dropdown settings => { settings with dropdown },
    .nested "grid" GridSettings.schema (Layer.lay GridSettings.layers · {})
      fun grid settings => { settings with grid },
    .nested "stability" StabilitySettings.schema (Layer.lay StabilitySettings.layers · {})
      fun stability settings => { settings with stability } ]

/-- The defaults with the numbers of the document in their places. -/
def overlaid (document : Value) : Settings where
  scroll := ScrollSettings.overlaid (document.member? "scroll")
  clear := ClearSettings.overlaid (document.member? "clear")
  dropdown := DropdownSettings.overlaid (document.member? "dropdown")
  grid := GridSettings.overlaid (document.member? "grid")
  stability := StabilitySettings.overlaid (document.member? "stability")

theorem lays : shape.Lays schema (Layer.lay layers) :=
  .of_fields layers rfl
    (.cons (Shape.field_lays ScrollSettings.lays) (.cons (Shape.field_lays ClearSettings.lays)
      (.cons (Shape.field_lays DropdownSettings.lays) (.cons (Shape.field_lays GridSettings.lays)
        (.cons (Shape.field_lays StabilitySettings.lays) .nil)))))
    (by decide) (by simp [layers, Layer.nested, Layer.part_apart])

theorem lay_eq (document : Value) : Layer.lay layers document {} = overlaid document := by
  rw [overlaid, ← ScrollSettings.lay_eq, ← ClearSettings.lay_eq, ← DropdownSettings.lay_eq, ← GridSettings.lay_eq,
    ← StabilitySettings.lay_eq, layers, Layer.lay_cons_nested Settings.scroll fun _ => rfl,
    Layer.lay_cons_nested Settings.clear fun _ => rfl, Layer.lay_cons_nested Settings.dropdown fun _ => rfl,
    Layer.lay_cons_nested Settings.grid fun _ => rfl, Layer.lay_cons_nested Settings.stability fun _ => rfl]
  rfl

theorem ofJson_of_follows {text : String} {document : Value} (parsed : Json.parse text = some document)
    (follows : schema.Follows document) : ofJson text = .ok (Layer.lay layers document {}) := by
  simp only [ofJson, Shape.ofJson?, parsed, lays.reads follows (Json.parse_regular parsed)]

theorem ofJson_of_breaks {text : String} {document : Value} (parsed : Json.parse text = some document)
    (breaks : schema.Breaks document) : ofJson text = .error ⟨.settings, "no settings in this JSON text"⟩ := by
  simp only [ofJson, Shape.ofJson?, parsed, lays.refuses breaks (Json.parse_regular parsed)]

/-- A text whose document follows the schema of settings holds the defaults with the numbers of the document in
their places. Members of other names change nothing; they may hold anything, and plain values inside the grid
settings. Every text whose document differs in the order of members alone holds the same settings. A text whose
document breaks the schema holds none, whatever else is in it. Negative zero is not read as a whole number. -/
theorem json_overlays_defaults {text : String} {document : Value} (parsed : Json.parse text = some document) :
    (schema.Follows document →
      ofJson text = .ok (overlaid document) ∧
      ∀ other rearranged, Json.parse other = some rearranged → document.Rearranged rearranged →
        ofJson other = ofJson text) ∧
    (schema.Breaks document → ∃ error, ofJson text = .error error ∧ error.cause = .settings) := by
  refine ⟨fun follows => ⟨?_, ?_⟩, fun breaks => ⟨_, ofJson_of_breaks parsed breaks, rfl⟩⟩
  · rw [ofJson_of_follows parsed follows, lay_eq]
  · intro other rearranged parsedOther same
    rw [ofJson_of_follows parsed follows, ofJson_of_follows parsedOther (same.follows follows),
      lays.alike follows same]

/-- Grid settings with the timeouts next to settings for scrolling, and members of no meaning between them. -/
def gridSample : List (Value × Value) :=
  [ (.text "final_timeout_ms", .ofNat 0), (.text "step_px", .null),
    (.text "scroll", .record [(.text "", .bool true), (.text "step_px", .ofInt (-7))]),
    (.text "step_px", .text "1"), (.text "operation_timeout_ms", .ofNat maxUnsigned64) ]

/-- A document with these grid settings. -/
def sample : Value :=
  .record
    [ (.text "theme", .ofInt (-1)), (.text "grid", .record gridSample),
      (.text "scroll", .record [(.text "max_stalls", .ofNat 0)]) ]

/-- The members of the grid settings the other way round. -/
def sampleTurned : Value :=
  .record
    [ (.text "theme", .ofInt (-1)), (.text "grid", .record gridSample.reverse),
      (.text "scroll", .record [(.text "max_stalls", .ofNat 0)]) ]

/-- A timeout given twice. -/
def sampleTwice : Value :=
  .record [(.text "grid", .record ((.text "final_timeout_ms", .ofNat 0) :: gridSample))]

theorem signedRange_follows {value : Int} (fits : IsSigned64 value) : signedRange.Follows (.ofInt value) := by
  refine .integer (congrArg some ?_) fits
  simp only [decide_eq_true_eq]
  split <;> omega

theorem unsignedRange_follows {value limit : Nat} (fits : value ≤ limit) :
    (unsignedRange limit).Follows (.ofNat value) :=
  .integer rfl ⟨Int.natCast_nonneg value, Int.ofNat_le.mpr fits⟩

theorem gridSample_follows : GridSettings.schema.Follows (.record gridSample) := by
  have scroll : ScrollSettings.schema.Follows
      (.record [(.text "", .bool true), (.text "step_px", .ofInt (-7))]) :=
    .cons (by simp) (fun _ => rfl) nofun <|
    .cons (by simpa using signedRange_follows ⟨by decide, by decide⟩) (fun _ => rfl) nofun .nil
  exact
    .cons (by simpa using unsignedRange_follows (by decide)) (fun _ => rfl) (by simp [Schema.names]) <|
    .cons (by simp) (by simp [Schema.names]) (by simp [Value.IsPlain]) <|
    .cons (by simpa using scroll) (fun _ => rfl) (by simp [Schema.names]) <|
    .cons (by simp) (by simp [Schema.names]) (by simp [Value.IsPlain]) <|
    .cons (by simpa using unsignedRange_follows (by decide)) (fun _ => rfl) (by simp [Schema.names]) .nil

theorem sample_follows : schema.Follows sample := by
  have scroll : ScrollSettings.schema.Follows (.record [(.text "max_stalls", .ofNat 0)]) :=
    .cons (by simpa using unsignedRange_follows (by decide)) (fun _ => rfl) nofun .nil
  exact
    .cons (by simp) (fun _ => rfl) nofun <|
    .cons (by simpa using gridSample_follows) (fun _ => rfl) nofun <|
    .cons (by simpa using scroll) (fun _ => rfl) nofun .nil

theorem samples_exact : sample.Exact ∧ sampleTurned.Exact ∧ sampleTwice.Exact := by
  have natural {value : Nat} (fits : value ≤ maxUnsigned64) : (Value.ofNat value).Exact := fits
  have step : (Value.ofInt (-7)).Exact := exact_ofInt ⟨by decide, by decide⟩
  have theme : (Value.ofInt (-1)).Exact := exact_ofInt ⟨by decide, by decide⟩
  have zero := natural (Nat.zero_le maxUnsigned64)
  have greatest := natural (Nat.le_refl maxUnsigned64)
  simp [sample, sampleTurned, sampleTwice, gridSample, Value.Exact, Value.MembersExact, step, theme, zero, greatest]

theorem json_overlays_defaults_in_grid :
    schema.Follows sample ∧ sample.Rearranged sampleTurned ∧
    ofJson (Json.write sampleTurned) =
      .ok { scroll := { maxStalls := 0 },
            grid := { timeouts := { during := maxUnsigned64, after := 0 }, scroll := { step := -7 } } } ∧
    schema.Breaks sampleTwice ∧
    ∃ error, ofJson (Json.write sampleTwice) = .error error ∧ error.cause = .settings := by
  obtain ⟨exact, exactTurned, exactTwice⟩ := samples_exact
  obtain ⟨reads, alike⟩ := (json_overlays_defaults (Json.parse_write exact)).1 sample_follows
  have turned : sample.Rearranged sampleTurned :=
    .inside [_] [_] (.reordered (List.reverse_perm _).symm)
  have twiceInGrid : GridSettings.schema.Breaks (.record ((.text "final_timeout_ms", .ofNat 0) :: gridSample)) :=
    .repeated (by simp [Schema.names]) (by decide : 1 < List.countP (Value.isNamed "final_timeout_ms") _)
  have twice : schema.Breaks sampleTwice := .held (by simp) List.mem_cons_self twiceInGrid
  refine ⟨sample_follows, turned, ?_, twice, (json_overlays_defaults (Json.parse_write exactTwice)).2 twice⟩
  rw [alike _ _ (Json.parse_write exactTurned) turned, reads]
  rfl

/-- A text holds no settings when what is read from its characters is no record of settings. -/
theorem ofJson_of_unread {text : String} {input : List Char} (written : text.toList = input)
    (unread : ((Json.readValue (2 * input.length + 2) input).bind fun read => shape.read jsonFormat {} read.1) = none) :
    ofJson text = .error ⟨.settings, "no settings in this JSON text"⟩ := by
  have refused : shape.ofJson? {} text = none := by
    simp only [Shape.ofJson?, Json.parse, written]
    cases read : Json.readValue (2 * input.length + 2) input with
    | none => rfl
    | some whole =>
        rw [read, Option.bind_some] at unread
        by_cases ended : Json.skip whole.2 = []
        · simp [ended, unread]
        · simp [ended]
  rw [ofJson, refused]

/-- A member of no meaning in the grid settings, and the number of rows after it. -/
def gridText (member : String) : String :=
  "\x7b\"grid\":\x7b" ++ member ++ ",\"row_search_limit\":7\x7d\x7d"

/-- In the grid settings a member of no meaning still has to be one that can be read in full: a whole number that no
double can hold and an escape that is no character, in a text or in a name, make the document unreadable. -/
theorem json_refuses_unheld_members :
    let large := "\"note\":1" ++ String.ofList (List.replicate 309 '0')
    let unreadable : Except Error Settings := .error ⟨.settings, "no settings in this JSON text"⟩
    ofJson (gridText "\"note\":1") = .ok { grid := { rowSearchLimit := 7 } } ∧
      ofJson (gridText large) = unreadable ∧
      ofJson (gridText "\"note\":\"\\ud800\"") = unreadable ∧
      ofJson (gridText "\"\\ud800\":1") = unreadable := by
  intro large unreadable
  have written : (gridText large).toList =
      "\x7b\"grid\":\x7b".toList ++ ("\"note\":1".toList ++ List.replicate 309 '0') ++
        ",\"row_search_limit\":7\x7d\x7d".toList := by
    simp only [gridText, large, String.toList_append, String.toList_ofList]
  exact ⟨by decide +kernel, ofJson_of_unread written (by decide +kernel), by decide +kernel, by decide +kernel⟩

-- A negative zero is read as a decimal, so it is out of place even where zero is in range.
example : (shape.ofJson? {} "\x7b\"scroll\":\x7b\"step_px\":-0\x7d\x7d").isNone = true := by
  decide +kernel

end Settings

end Locator
