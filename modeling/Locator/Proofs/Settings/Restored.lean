import Locator.Proofs.Data.Records
import Locator.Proofs.Geometry
import Locator.Settings.Load

/-!
# Settings are read back as they were written

Every record of settings or geometry whose numbers are in the range of their types is what its JSON text is
read as, and so are the settings in a file that is named as JSON.
-/

namespace Locator

open Locator.Data

set_option autoImplicit false

variable {Record Outer : Type}

/-! ## Fields -/

theorem exact_ofInt {value : Int} (fits : IsSigned64 value) : (Value.ofInt value).Exact := by
  simp only [Value.ofInt, Value.Exact, Json.IsWhole, decide_eq_true_eq]
  unfold IsSigned64 minSigned64 maxSigned64 at fits
  unfold minSigned64 maxUnsigned64
  split <;> omega

theorem signed64?_ofInt {value : Int} (fits : IsSigned64 value) : (Value.ofInt value).signed64? = some value := by
  have same : (if decide (value < 0) = true then -(value.natAbs : Int) else value.natAbs) = value := by
    simp only [decide_eq_true_eq]
    split <;> omega
  simp only [Value.ofInt, Value.signed64?, same]
  exact if_pos fits

theorem signedField_putsBack {key : String} {set : Int → Record → Record} {get : Record → Int} {record : Record}
    (fits : IsSigned64 (get record)) : (signedField key set get).PutsBack record (set (get record)) :=
  .plain (exact_ofInt fits) (signed64?_ofInt fits)

theorem unsignedField_putsBack {limit : Nat} {key : String} {set : Nat → Record → Record}
    {get : Record → Nat} {record : Record} (fits : get record ≤ limit) (small : limit ≤ maxUnsigned64) :
    (unsignedField limit key set get).PutsBack record (set (get record)) :=
  .plain (Nat.le_trans fits small) (if_pos fits)

theorem heldField_putsBack {key : String} {set : Nat → Record → Record} {get : Record → Nat} {record : Record}
    (fits : get record ≤ maxUnsigned64) : (heldField key set get).PutsBack record (set (get record)) :=
  .plain fits (if_pos fits)

theorem flattened_putsBack {field : RecordField Record} {set : Record → Outer → Outer} {get : Outer → Record}
    {outer : Outer} {put : Record → Record} (putsBack : field.PutsBack (get outer) put) :
    RecordField.PutsBack
      { key := field.key
        read := fun format value outer => (field.read format value (get outer)).map (set · outer)
        write := fun outer => field.write (get outer) }
      outer fun start => set (put (get start)) start :=
  ⟨putsBack.exact, fun format start => congrArg (Option.map (set · start)) (putsBack.reads format (get start))⟩

/-! ## Records -/

structure Rect.Fits (rect : Rect) : Prop where
  x : IsSigned64 rect.x
  y : IsSigned64 rect.y
  width : IsSigned64 rect.width
  height : IsSigned64 rect.height

structure Offset.Fits (offset : Offset) : Prop where
  x : IsSigned64 offset.x
  y : IsSigned64 offset.y

structure ScrollSettings.Fits (settings : ScrollSettings) : Prop where
  step : IsSigned64 settings.step
  maxStalls : settings.maxStalls ≤ maxUnsigned32

structure ClearSettings.Fits (settings : ClearSettings) : Prop where
  strictTries : settings.strictTries ≤ maxUnsigned32
  lenientTries : settings.lenientTries ≤ maxUnsigned32
  quickLength : settings.quickLength ≤ maxUnsigned64

structure DropdownSettings.Fits (settings : DropdownSettings) : Prop where
  step : IsSigned64 settings.step
  lookupTimeout : settings.lookupTimeout ≤ maxUnsigned64
  settleDelay : settings.settleDelay ≤ maxUnsigned64

structure GridTimeouts.Fits (timeouts : GridTimeouts) : Prop where
  during : timeouts.during ≤ maxUnsigned64
  after : timeouts.after ≤ maxUnsigned64

structure GridSettings.Fits (settings : GridSettings) : Prop where
  timeouts : settings.timeouts.Fits
  rowSearchLimit : settings.rowSearchLimit ≤ maxUnsigned64
  scroll : settings.scroll.Fits

structure StabilitySettings.Fits (settings : StabilitySettings) : Prop where
  pollInterval : settings.pollInterval ≤ maxUnsigned64

/-- Every number is in the range of its type. -/
structure Settings.Fits (settings : Settings) : Prop where
  scroll : settings.scroll.Fits
  clear : settings.clear.Fits
  dropdown : settings.dropdown.Fits
  grid : settings.grid.Fits
  stability : settings.stability.Fits

theorem maxUnsigned32_le : maxUnsigned32 ≤ maxUnsigned64 := by
  decide

theorem Rect.restores {rect : Rect} (fits : rect.Fits) : Rect.shape.Restores rect :=
  .of_fields (by decide)
    (.cons (signedField_putsBack fits.x) (.cons (signedField_putsBack fits.y)
      (.cons (signedField_putsBack fits.width) (.cons (signedField_putsBack fits.height) .nil))))
    fun _ => rfl

theorem Offset.restores {offset : Offset} (fits : offset.Fits) : Offset.shape.Restores offset :=
  .of_fields (by decide)
    (.cons (signedField_putsBack fits.x) (.cons (signedField_putsBack fits.y) .nil))
    fun _ => rfl

theorem Handle.restores (handle : Handle) : Handle.shape.Restores handle :=
  .of_fields (by decide) (.cons (.plain trivial rfl) .nil) fun _ => rfl

theorem ScrollSettings.restores {settings : ScrollSettings} (fits : settings.Fits) :
    ScrollSettings.shape.Restores settings :=
  .of_fields (by decide)
    (.cons (signedField_putsBack fits.step)
      (.cons (unsignedField_putsBack fits.maxStalls maxUnsigned32_le) .nil))
    fun _ => rfl

theorem ClearSettings.restores {settings : ClearSettings} (fits : settings.Fits) :
    ClearSettings.shape.Restores settings :=
  .of_fields (by decide)
    (.cons (unsignedField_putsBack fits.strictTries maxUnsigned32_le)
      (.cons (unsignedField_putsBack fits.lenientTries maxUnsigned32_le)
        (.cons (unsignedField_putsBack fits.quickLength (Nat.le_refl _)) .nil)))
    fun _ => rfl

theorem DropdownSettings.restores {settings : DropdownSettings} (fits : settings.Fits) :
    DropdownSettings.shape.Restores settings :=
  .of_fields (by decide)
    (.cons (signedField_putsBack fits.step)
      (.cons (unsignedField_putsBack fits.lookupTimeout (Nat.le_refl _))
        (.cons (unsignedField_putsBack fits.settleDelay (Nat.le_refl _)) .nil)))
    fun _ => rfl

theorem GridTimeouts.restores {timeouts : GridTimeouts} (fits : timeouts.Fits) :
    GridTimeouts.shape.Restores timeouts :=
  .of_fields (by decide)
    (.cons (unsignedField_putsBack fits.during (Nat.le_refl _))
      (.cons (unsignedField_putsBack fits.after (Nat.le_refl _)) .nil))
    fun _ => rfl

/-- The two timeouts are put back among the fields of the grid settings. -/
theorem GridSettings.restores {settings : GridSettings} (fits : settings.Fits) :
    GridSettings.shape.Restores settings :=
  .of_fields (by decide)
    (.cons (flattened_putsBack (heldField_putsBack fits.timeouts.during))
      (.cons (flattened_putsBack (heldField_putsBack fits.timeouts.after))
        (.cons (unsignedField_putsBack fits.rowSearchLimit (Nat.le_refl _))
          (.cons (Shape.field_putsBack (ScrollSettings.restores fits.scroll)) .nil))))
    fun _ => rfl

theorem StabilitySettings.restores {settings : StabilitySettings} (fits : settings.Fits) :
    StabilitySettings.shape.Restores settings :=
  .of_fields (by decide) (.cons (unsignedField_putsBack fits.pollInterval (Nat.le_refl _)) .nil) fun _ => rfl

theorem Settings.restores {settings : Settings} (fits : settings.Fits) : Settings.shape.Restores settings :=
  .of_fields (by decide)
    (.cons (Shape.field_putsBack (ScrollSettings.restores fits.scroll))
      (.cons (Shape.field_putsBack (ClearSettings.restores fits.clear))
        (.cons (Shape.field_putsBack (DropdownSettings.restores fits.dropdown))
          (.cons (Shape.field_putsBack (GridSettings.restores fits.grid))
            (.cons (Shape.field_putsBack (StabilitySettings.restores fits.stability)) .nil)))))
    fun _ => rfl

/-! ## Files -/

theorem Settings.namesJson_of_extension {stem extension : String} (named : stem ≠ "")
    (json : extension.toList.map Char.toLower = ['j', 's', 'o', 'n']) :
    Settings.namesJson (stem ++ "." ++ extension) = true := by
  have noDot : ∀ letter ∈ extension.toList.reverse, (letter != '.') = true := by
    intro letter mem
    have lower : letter.toLower ∈ ['j', 's', 'o', 'n'] := json ▸ List.mem_map_of_mem (List.mem_reverse.mp mem)
    rw [bne_iff_ne]
    rintro rfl
    exact absurd lower (by decide)
  have reversed : (stem ++ "." ++ extension).toList.reverse =
      extension.toList.reverse ++ '.' :: stem.toList.reverse := by
    simp
  have notDots : stem ++ "." ++ extension ≠ ".." := by
    intro dots
    have lengths := congrArg (List.length ∘ String.toList) dots
    have letters := congrArg List.length json
    simp at lengths letters
    omega
  obtain ⟨last, others, stemText⟩ : ∃ last others, stem.toList.reverse = last :: others :=
    List.exists_cons_of_ne_nil (by simpa using named)
  have found : Settings.extension? (stem ++ "." ++ extension) = some extension.toList := by
    unfold Settings.extension?
    simp only [reversed, List.takeWhile_append_of_pos noDot, List.dropWhile_append_of_pos noDot, stemText]
    simp [notDots]
  simp [Settings.namesJson, found, json]

theorem fromUTF8?_toUTF8 (text : String) : String.fromUTF8? text.toUTF8 = some text :=
  dif_pos text.isValidUTF8

theorem Settings.restores_ofJson {settings : Settings} (fits : settings.Fits) :
    Settings.ofJson (Settings.shape.toJson settings) = .ok settings := by
  rw [Settings.ofJson, (Settings.restores fits).json]

/-- Whatever the numbers of a record, as long as each is in the range of its type, and whatever the id of an
element, the record is what its JSON text is read as. So are all settings together, from their text and from a
file with that text whose extension is `json` in letters of either case. -/
theorem json_text_restores :
    (∀ settings : ScrollSettings, settings.Fits → ∀ defaults,
      ScrollSettings.shape.ofJson? defaults (ScrollSettings.shape.toJson settings) = some settings) ∧
    (∀ settings : ClearSettings, settings.Fits → ∀ defaults,
      ClearSettings.shape.ofJson? defaults (ClearSettings.shape.toJson settings) = some settings) ∧
    (∀ settings : DropdownSettings, settings.Fits → ∀ defaults,
      DropdownSettings.shape.ofJson? defaults (DropdownSettings.shape.toJson settings) = some settings) ∧
    (∀ timeouts : GridTimeouts, timeouts.Fits → ∀ defaults,
      GridTimeouts.shape.ofJson? defaults (GridTimeouts.shape.toJson timeouts) = some timeouts) ∧
    (∀ settings : GridSettings, settings.Fits → ∀ defaults,
      GridSettings.shape.ofJson? defaults (GridSettings.shape.toJson settings) = some settings) ∧
    (∀ settings : StabilitySettings, settings.Fits → ∀ defaults,
      StabilitySettings.shape.ofJson? defaults (StabilitySettings.shape.toJson settings) = some settings) ∧
    (∀ rect : Rect, rect.Fits → ∀ defaults,
      Rect.shape.ofJson? defaults (Rect.shape.toJson rect) = some rect) ∧
    (∀ offset : Offset, offset.Fits → ∀ defaults,
      Offset.shape.ofJson? defaults (Offset.shape.toJson offset) = some offset) ∧
    (∀ (handle : Handle) defaults,
      Handle.shape.ofJson? defaults (Handle.shape.toJson handle) = some handle) ∧
    ∀ settings : Settings, settings.Fits →
      (∀ defaults, Settings.shape.ofJson? defaults (Settings.shape.toJson settings) = some settings) ∧
      Settings.ofJson (Settings.shape.toJson settings) = .ok settings ∧
      ∀ stem extension : String, stem ≠ "" → extension.toList.map Char.toLower = ['j', 's', 'o', 'n'] →
        Settings.ofFile (stem ++ "." ++ extension) (some (Settings.shape.toJson settings).toUTF8) =
          .ok settings := by
  refine ⟨fun _ fits => (ScrollSettings.restores fits).json, fun _ fits => (ClearSettings.restores fits).json,
    fun _ fits => (DropdownSettings.restores fits).json, fun _ fits => (GridTimeouts.restores fits).json,
    fun _ fits => (GridSettings.restores fits).json, fun _ fits => (StabilitySettings.restores fits).json,
    fun _ fits => (Rect.restores fits).json, fun _ fits => (Offset.restores fits).json,
    fun handle => handle.restores.json, ?_⟩
  intro settings fits
  refine ⟨(Settings.restores fits).json, Settings.restores_ofJson fits, ?_⟩
  intro stem extension named json
  rw [Settings.ofFile, fromUTF8?_toUTF8]
  simp only [Settings.namesJson_of_extension named json, if_true]
  exact Settings.restores_ofJson fits

/-- Settings at the limits of their types. -/
def Settings.extreme : Settings where
  scroll := { step := minSigned64, maxStalls := maxUnsigned32 }
  dropdown := { step := maxSigned64, lookupTimeout := 0, settleDelay := maxUnsigned64 }
  grid := { timeouts := { during := maxUnsigned64, after := 0 }, scroll := { step := -1 } }

theorem Settings.extreme_fits : Settings.extreme.Fits where
  scroll := ⟨⟨by decide, by decide⟩, by decide⟩
  clear := ⟨by decide, by decide, by decide⟩
  dropdown := ⟨⟨by decide, by decide⟩, by decide, by decide⟩
  grid := ⟨⟨by decide, by decide⟩, by decide, ⟨by decide, by decide⟩, by decide⟩
  stability := ⟨by decide⟩

theorem json_text_restores_extreme :
    Settings.extreme.Fits ∧
    Settings.ofFile "a.b.JsoN" (some (Settings.shape.toJson Settings.extreme).toUTF8) = .ok Settings.extreme ∧
    Handle.shape.ofJson? ⟨""⟩ (Handle.shape.toJson ⟨"\x00\"\\\n😀"⟩) = some ⟨"\x00\"\\\n😀"⟩ := by
  obtain ⟨_, _, _, _, _, _, _, _, handles, settings⟩ := json_text_restores
  obtain ⟨_, _, files⟩ := settings Settings.extreme Settings.extreme_fits
  exact ⟨Settings.extreme_fits, files "a.b" "JsoN" (by decide) (by decide), handles ⟨_⟩ _⟩

end Locator
