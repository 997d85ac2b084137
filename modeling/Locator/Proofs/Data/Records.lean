import Locator.Data.Json.Record
import Locator.Proofs.Data.Json.Values
import Mathlib.Data.List.Forall2

/-!
# Records read back

A record is read back from what is written for it when its fields are: each field has a key of its own, and
reading what a field writes puts it back, whatever was there before.
-/

namespace Locator.Data

set_option autoImplicit false

variable {Record Outer Content : Type}

/-- Reading what the field writes for a record does `put` to the record it is read into. -/
structure RecordField.PutsBack (field : RecordField Record) (record : Record) (put : Record → Record) : Prop where
  exact : (field.write record).Exact
  reads : ∀ format start, field.read format (field.write record) start = some (put start)

/-- What is written for the record has a form in JSON, and is read as the record. -/
structure Shape.Restores (shape : Shape Record) (record : Record) : Prop where
  exact : (shape.write record).Exact
  reads : ∀ format defaults, shape.read format defaults (shape.write record) = some record

theorem RecordField.PutsBack.plain {key : String} {read : Value → Option Content}
    {set : Content → Record → Record} {write : Record → Value} {record : Record} {content : Content}
    (exact : (write record).Exact) (reads : read (write record) = some content) :
    (RecordField.plain key read set write).PutsBack record (set content) :=
  ⟨exact, fun _ start => congrArg (Option.map (set · start)) reads⟩

namespace Shape

variable {shape : Shape Record} {record : Record}

theorem field_putsBack {key : String} {defaults : Record} {set : Record → Outer → Outer}
    {get : Outer → Record} {outer : Outer} (restores : shape.Restores (get outer)) :
    (shape.field key defaults set get).PutsBack outer (set (get outer)) :=
  ⟨restores.exact, fun format start => congrArg (Option.map (set · start)) (restores.reads format defaults)⟩

theorem membersExact_write {fields : List (RecordField Record)} {puts : List (Record → Record)}
    (putsBack : List.Forall₂ (RecordField.PutsBack · record) fields puts) :
    Value.MembersExact (fields.map fun field => (.text field.key, field.write record)) := by
  induction putsBack with
  | nil => trivial
  | cons first _ ih => exact ⟨⟨_, rfl⟩, first.exact, ih⟩

theorem find?_key {fields : List (RecordField Record)} (distinct : (fields.map RecordField.key).Nodup)
    {field : RecordField Record} (mem : field ∈ fields) : fields.find? (·.key == field.key) = some field := by
  induction fields with
  | nil => cases mem
  | cons first others ih =>
      rw [List.map_cons, List.nodup_cons] at distinct
      rcases List.mem_cons.mp mem with rfl | later
      · exact List.find?_cons_of_pos (by simp)
      · have differ : first.key ≠ field.key := fun same =>
          distinct.1 (same ▸ List.mem_map_of_mem later)
        rw [List.find?_cons_of_neg (by simpa using differ)]
        exact ih distinct.2 later

/-- Members that name fields not seen before are read one after another. -/
theorem readMembers_write (distinct : (shape.fields.map RecordField.key).Nodup) (format : Format)
    {fields : List (RecordField Record)} {puts : List (Record → Record)}
    (putsBack : List.Forall₂ (RecordField.PutsBack · record) fields puts)
    (known : ∀ field ∈ fields, field ∈ shape.fields) (own : (fields.map RecordField.key).Nodup)
    (seen : List String) (start : Record) (fresh : ∀ field ∈ fields, field.key ∉ seen) :
    shape.readMembers format seen start (fields.map fun field => (.text field.key, field.write record)) =
      some (puts.foldl (fun record put => put record) start, (fields.map RecordField.key).reverse ++ seen) := by
  induction putsBack generalizing seen start with
  | nil => rfl
  | @cons field put fields puts first _ ih =>
      rw [List.map_cons, List.nodup_cons] at own
      obtain ⟨isKnown, knownOthers⟩ := List.forall_mem_cons.mp known
      obtain ⟨isFresh, freshOthers⟩ := List.forall_mem_cons.mp fresh
      have named : shape.fieldNamed? (.text field.key) = some field := find?_key distinct isKnown
      have unseen : seen.contains field.key = false := by simpa using isFresh
      have stillFresh : ∀ other ∈ fields, other.key ∉ field.key :: seen := by
        intro other mem
        rw [List.mem_cons, not_or]
        exact ⟨fun same => own.1 (same ▸ List.mem_map_of_mem mem), freshOthers other mem⟩
      rw [List.map_cons, readMembers]
      simp only [Value.isName, Bool.not_true, Bool.false_eq_true, if_false, named, unseen, first.reads]
      rw [ih knownOthers own.2 _ _ stillFresh]
      simp

/-- A record is read back when its fields are put back and putting them back gives the record. -/
theorem Restores.of_fields {puts : List (Record → Record)}
    (distinct : (shape.fields.map RecordField.key).Nodup)
    (putsBack : List.Forall₂ (RecordField.PutsBack · record) shape.fields puts)
    (whole : ∀ start, puts.foldl (fun record put => put record) start = record) :
    shape.Restores record := by
  constructor
  · exact membersExact_write putsBack
  · intro format defaults
    have read := readMembers_write distinct format.deeper putsBack (fun _ mem => mem) distinct [] defaults
      (fun _ _ => List.not_mem_nil)
    simpa [Shape.read, Shape.write, read, whole] using fun _ field mem => ⟨field, mem, rfl⟩

theorem Restores.json (restores : shape.Restores record) (defaults : Record) :
    shape.ofJson? defaults (shape.toJson record) = some record := by
  unfold ofJson? toJson
  rw [Json.parse_write restores.exact]
  exact restores.reads jsonFormat defaults

end Shape

end Locator.Data
