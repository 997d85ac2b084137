import Locator.Proofs.Data.Json.Numbers
import Locator.Proofs.Data.Records
import Locator.Proofs.Data.Schemas

/-!
# Documents laid over records

A record with defaults is read from a document by layers: one for each field, which does to the record what the
value under its name says, if there is one. The layers touch different parts of the record. So it does not matter
in which order the document has its members, and what is read is the record that was there with all layers put on.
-/

namespace Locator.Data

set_option autoImplicit false

variable {Record Outer Content Content' : Type}

theorem Value.IsPlain.holdable {value : Value} (plain : value.IsPlain) (regular : value.Regular) (room : Nat) :
    value.holdable room = true := by
  cases value with
  | integer negative magnitude =>
      cases negative with
      | false => exact decide_eq_true regular
      | true => exact decide_eq_true (And.right regular)
  | decimal => exact plain
  | null | bool | text => rfl
  | empty | garbled | list | record => exact plain.elim

/-- What the value under a name does to a record, if it follows the schema. -/
structure Layer (Record : Type) where
  name : String
  schema : Schema
  put : Value → Record → Record

namespace Layer

/-- Neither layer covers what the other one puts. -/
def Apart (first second : Layer Record) : Prop :=
  ∀ value other record, first.put value (second.put other record) = second.put other (first.put value record)

/-- The schema of each name. -/
def known (layers : List (Layer Record)) : List (String × Schema) :=
  layers.map fun layer => (layer.name, layer.schema)

/-- The record with the members of a document laid over it. -/
def lay (layers : List (Layer Record)) (document : Value) (record : Record) : Record :=
  layers.foldl (fun record layer => (document.member? layer.name).elim record (layer.put · record)) record

/-- The layer that replaces one part of a record by what a value has for it. -/
def part (name : String) (schema : Schema) (content? : Value → Option Content) (set : Content → Record → Record) :
    Layer Record where
  name
  schema
  put value record := (content? value).elim record (set · record)

/-- The layer of a whole number in a range. -/
def number (name : String) (least greatest : Int) (convert : Int → Content) (set : Content → Record → Record) :
    Layer Record :=
  part name (.integer least greatest) (fun value => value.whole?.map convert) set

/-- The layer of a record inside the record. -/
def nested (name : String) (schema : Schema) (content : Value → Content) (set : Content → Record → Record) :
    Layer Record :=
  part name schema (fun value => some (content value)) set

theorem part_apart {name other : String} {schema schema' : Schema} {content? : Value → Option Content}
    {content?' : Value → Option Content'} {set : Content → Record → Record} {set' : Content' → Record → Record}
    (commute : ∀ content content' record, set content (set' content' record) = set' content' (set content record)) :
    (part name schema content? set).Apart (part other schema' content?' set') := by
  intro value value' record
  simp only [part]
  cases content? value with
  | none => rfl
  | some content =>
      cases content?' value' with
      | none => rfl
      | some content' => exact commute content content' record

theorem names_known (layers : List (Layer Record)) : Schema.names (known layers) = layers.map Layer.name := by
  simp [known, Schema.names]

variable {layers : List (Layer Record)} {name : String} {value : Value} {members : List (Value × Value)}

theorem lay_nil (layers : List (Layer Record)) (record : Record) : lay layers (.record []) record = record := by
  induction layers with
  | nil => rfl
  | cons _ _ ih => exact ih

theorem lay_cons_number {name : String} {least greatest : Int} {convert : Int → Content}
    {set : Content → Record → Record} (get : Record → Content) (same : ∀ record, set (get record) record = record)
    (layers : List (Layer Record)) (document : Value) (record : Record) :
    lay (number name least greatest convert set :: layers) document record =
      lay layers document (set (((document.number? name).map convert).getD (get record)) record) := by
  refine congrArg (lay layers document) ?_
  simp only [number, part, Value.number?]
  cases document.member? name with
  | none => exact (same record).symm
  | some value =>
      simp only [Option.elim_some, Option.bind_some]
      cases value.whole? with
      | none => exact (same record).symm
      | some => rfl

theorem lay_cons_nested {name : String} {schema : Schema} {content : Value → Content}
    {set : Content → Record → Record} (get : Record → Content) (same : ∀ record, set (get record) record = record)
    (layers : List (Layer Record)) (document : Value) (record : Record) :
    lay (nested name schema content set :: layers) document record =
      lay layers document (set (((document.member? name).map content).getD (get record)) record) := by
  refine congrArg (lay layers document) ?_
  simp only [nested, part]
  cases document.member? name with
  | none => exact (same record).symm
  | some => rfl

theorem lay_cons_of_notMem (isUnknown : name ∉ layers.map Layer.name) (record : Record) :
    lay layers (.record ((.text name, value) :: members)) record = lay layers (.record members) record := by
  induction layers generalizing record with
  | nil => rfl
  | cons layer layers ih =>
      rw [List.map_cons, List.mem_cons, not_or] at isUnknown
      unfold lay
      rw [List.foldl_cons, List.foldl_cons, Value.member?_cons_of_ne isUnknown.1]
      exact ih isUnknown.2 _

/-- The first member may as well be put on before all layers. -/
theorem lay_cons_of_mem (distinct : (layers.map Layer.name).Nodup) (apart : layers.Pairwise Apart)
    {layer : Layer Record} (mem : layer ∈ layers) (once : (Value.record members).member? layer.name = none)
    (record : Record) :
    lay layers (.record ((.text layer.name, value) :: members)) record =
      lay layers (.record members) (layer.put value record) := by
  induction layers generalizing record with
  | nil => cases mem
  | cons first layers ih =>
      rw [List.map_cons, List.nodup_cons] at distinct
      rw [List.pairwise_cons] at apart
      rcases List.mem_cons.mp mem with rfl | later
      · calc
          lay (layer :: layers) (.record ((.text layer.name, value) :: members)) record
            = lay layers (.record ((.text layer.name, value) :: members)) (layer.put value record) := by
                rw [lay, List.foldl_cons, Value.member?_cons_self]
                rfl
          _ = lay layers (.record members) (layer.put value record) := lay_cons_of_notMem distinct.1 _
          _ = lay (layer :: layers) (.record members) (layer.put value record) := by
                rw [lay, lay, List.foldl_cons, once]
                rfl
      · have differ : layer.name ≠ first.name := fun same => distinct.1 (same ▸ List.mem_map_of_mem later)
        unfold lay
        rw [List.foldl_cons, List.foldl_cons, Value.member?_cons_of_ne differ]
        refine (ih distinct.2 apart.2 later _).trans (congrArg _ ?_)
        cases (Value.record members).member? first.name with
        | none => rfl
        | some other => exact (apart.1 layer later other value record).symm

theorem lay_congr {document other : Value}
    (same : ∀ layer ∈ layers, ∀ record : Record,
      (document.member? layer.name).elim record (layer.put · record) =
        (other.member? layer.name).elim record (layer.put · record)) (record : Record) :
    lay layers document record = lay layers other record := by
  induction layers generalizing record with
  | nil => rfl
  | cons layer layers ih =>
      obtain ⟨first, others⟩ := List.forall_mem_cons.mp same
      unfold lay
      rw [List.foldl_cons, List.foldl_cons, first]
      exact ih others _

end Layer

/-- The field is read as the layer says from values that follow its schema, and from none that breaks it. -/
structure RecordField.Lays (field : RecordField Record) (layer : Layer Record) : Prop where
  name : field.key = layer.name
  reads : ∀ {format value start}, layer.schema.Follows value → value.Regular →
    field.read format value start = some (layer.put value start)
  refuses : ∀ {format value start}, layer.schema.Breaks value → value.Regular → field.read format value start = none
  alike : ∀ {value other}, layer.schema.Follows value → value.Rearranged other → layer.put value = layer.put other

namespace RecordField.Lays

theorem plain {key : String} {least greatest : Int} {convert : Int → Content} {read : Value → Option Content}
    {set : Content → Record → Record} {write : Record → Value}
    (ranged : ∀ value : Value, value.Regular →
      read value = value.whole?.bind fun number =>
        if least ≤ number ∧ number ≤ greatest then some (convert number) else none) :
    (RecordField.plain key read set write).Lays (.number key least greatest convert set) where
  name := rfl
  reads {format value start} follows regular := by
    cases follows with
    | integer whole fits => simp [RecordField.plain, Layer.number, Layer.part, ranged value regular, whole, fits]
  refuses {format value start} breaks regular := by
    cases breaks with
    | integer misfit =>
        cases whole : value.whole? with
        | none => simp [RecordField.plain, ranged value regular, whole]
        | some number =>
            have outside : ¬(least ≤ number ∧ number ≤ greatest) := by
              have := misfit number whole
              omega
            simp [RecordField.plain, ranged value regular, whole, outside]
  alike _ rearranged := by simp only [Layer.number, Layer.part, rearranged.whole?_eq]

/-- A number in a part is a number in the whole, where putting back the part that is there changes nothing. -/
theorem flattened {field : RecordField Record} {name : String} {least greatest : Int} {convert : Int → Content}
    {put : Content → Record → Record} {set : Record → Outer → Outer} {get : Outer → Record}
    (lays : field.Lays (.number name least greatest convert put)) (same : ∀ outer, set (get outer) outer = outer) :
    RecordField.Lays
      { key := field.key
        read := fun format value outer => (field.read format value (get outer)).map (set · outer)
        write := fun outer => field.write (get outer) }
      (.number name least greatest convert fun content outer => set (put content (get outer)) outer) where
  name := lays.name
  reads {format value start} follows regular := by
    simp only [lays.reads follows regular, Layer.number, Layer.part, Option.map_some]
    cases value.whole?.map convert with
    | none => exact congrArg some (same start)
    | some => rfl
  refuses breaks regular := congrArg (Option.map (set · _)) (lays.refuses breaks regular)
  alike _ rearranged := by simp only [Layer.number, Layer.part, rearranged.whole?_eq]

end RecordField.Lays

/-- The record is read by laying over it what follows the schema, and is not read from what breaks it. -/
structure Shape.Lays (shape : Shape Record) (schema : Schema) (lay : Value → Record → Record) : Prop where
  reads : ∀ {format document start}, schema.Follows document → document.Regular →
    shape.read format start document = some (lay document start)
  refuses : ∀ {format document start}, schema.Breaks document → document.Regular →
    shape.read format start document = none
  alike : ∀ {document other}, schema.Follows document → document.Rearranged other → lay document = lay other

namespace Shape

variable {shape : Shape Record} {layers : List (Layer Record)}

theorem field_lays {schema : Schema} {lay : Value → Record → Record} (lays : shape.Lays schema lay) {key : String}
    {defaults : Record} {set : Record → Outer → Outer} {get : Outer → Record} :
    (shape.field key defaults set get).Lays (.nested key schema (lay · defaults) set) where
  name := rfl
  reads follows regular := congrArg (Option.map (set · _)) (lays.reads follows regular)
  refuses breaks regular := congrArg (Option.map (set · _)) (lays.refuses breaks regular)
  alike follows rearranged := by simp only [Layer.nested, Layer.part, lays.alike follows rearranged]

theorem keys_eq {fields : List (RecordField Record)} (lays : List.Forall₂ RecordField.Lays fields layers) :
    fields.map RecordField.key = layers.map Layer.name := by
  induction lays with
  | nil => rfl
  | cons first _ ih => simp [first.name, ih]

theorem exists_lays {fields : List (RecordField Record)} (lays : List.Forall₂ RecordField.Lays fields layers)
    {layer : Layer Record} (mem : layer ∈ layers) : ∃ field ∈ fields, field.Lays layer := by
  induction lays with
  | nil => cases mem
  | @cons field first _ _ lays _ ih =>
      rcases List.mem_cons.mp mem with rfl | later
      · exact ⟨field, List.mem_cons_self, lays⟩
      · obtain ⟨field, isField, lays⟩ := ih later
        exact ⟨field, List.mem_cons_of_mem _ isField, lays⟩

section Members

variable {format : Format} {seen : List String} {start record : Record} {name : String} {value : Value}
  {members : List (Value × Value)}

theorem readMembers_cons_of_named {field : RecordField Record} (named : shape.fieldNamed? (.text name) = some field)
    (unseen : field.key ∉ seen) (reads : field.read format value start = some record) :
    shape.readMembers format seen start ((.text name, value) :: members) =
      shape.readMembers format (field.key :: seen) record members := by
  rw [readMembers]
  simp [Value.isName, named, unseen, reads]

theorem readMembers_cons_of_unnamed (unnamed : shape.fieldNamed? (.text name) = none)
    (kept : shape.holdsUnknown = true → value.holdable format.room = true) :
    shape.readMembers format seen start ((.text name, value) :: members) =
      shape.readMembers format seen start members := by
  have passes : (shape.holdsUnknown && !value.holdable format.room) = false := by
    cases full : shape.holdsUnknown with
    | false => rfl
    | true => simp [kept full]
  rw [readMembers]
  simp [Value.isName, unnamed, passes]

variable (lays : List.Forall₂ RecordField.Lays shape.fields layers) (distinct : (layers.map Layer.name).Nodup)
include lays

include distinct in
theorem fieldNamed?_of_mem {layer : Layer Record} (mem : layer ∈ layers) :
    ∃ field, shape.fieldNamed? (.text layer.name) = some field ∧ field.Lays layer := by
  obtain ⟨field, isField, fieldLays⟩ := exists_lays lays mem
  refine ⟨field, ?_, fieldLays⟩
  rw [← fieldLays.name]
  exact find?_key (keys_eq lays ▸ distinct) isField

theorem fieldNamed?_of_notMem {name : String} (isUnknown : name ∉ layers.map Layer.name) :
    shape.fieldNamed? (.text name) = none := by
  refine List.find?_eq_none.mpr fun field isField same => ?_
  rw [← keys_eq lays] at isUnknown
  exact isUnknown (beq_iff_eq.mp same ▸ List.mem_map_of_mem isField)

include distinct in
/-- Members that follow the schema are laid over the record one after another. No name that has been met is there
again. -/
theorem readMembers_lays (apart : layers.Pairwise Layer.Apart) (format : Format) {members : List (Value × Value)}
    (follows : (Schema.record shape.holdsUnknown (Layer.known layers)).Follows (.record members))
    (regular : Value.MembersRegular members) {seen : List String}
    (fresh : ∀ name ∈ seen, (Value.record members).member? name = none) (start : Record) :
    ∃ met, shape.readMembers format seen start members = some (Layer.lay layers (.record members) start, met) := by
  induction members generalizing seen start with
  | nil => exact ⟨seen, by rw [readMembers, Layer.lay_nil]⟩
  | cons member members ih =>
      obtain ⟨key, value⟩ := member
      obtain ⟨name, rfl⟩ := follows.named List.mem_cons_self
      have freshBehind : ∀ name ∈ seen, (Value.record members).member? name = none :=
        fun name mem => Value.member?_tail (fresh name mem)
      by_cases isKnown : name ∈ layers.map Layer.name
      · obtain ⟨layer, mem, rfl⟩ := List.mem_map.mp isKnown
        obtain ⟨field, found, fieldLays⟩ := fieldNamed?_of_mem lays distinct mem
        have missing := follows.missing_behind (Layer.names_known layers ▸ isKnown)
        have unseen : field.key ∉ seen := fun met =>
          absurd (fresh _ (fieldLays.name ▸ met)) (by simp [Value.member?_cons_self])
        have stillFresh : ∀ name ∈ field.key :: seen, (Value.record members).member? name = none :=
          List.forall_mem_cons.mpr ⟨fieldLays.name ▸ missing, freshBehind⟩
        have reads : field.read format value start = some (layer.put value start) :=
          fieldLays.reads (follows.held (List.mem_map_of_mem mem) List.mem_cons_self) regular.1
        rw [readMembers_cons_of_named found unseen reads, Layer.lay_cons_of_mem distinct apart mem missing]
        exact ih follows.tail regular.2 stillFresh _
      · have kept : shape.holdsUnknown = true → value.holdable format.room = true := fun full =>
          (follows.others full List.mem_cons_self (Layer.names_known layers ▸ isKnown)).holdable regular.1 _
        rw [readMembers_cons_of_unnamed (fieldNamed?_of_notMem lays isKnown) kept,
          Layer.lay_cons_of_notMem isKnown]
        exact ih follows.tail regular.2 freshBehind _

end Members

theorem fieldNamed?_key {name : String} {field : RecordField Record}
    (named : shape.fieldNamed? (.text name) = some field) : field.key = name := by
  have here := List.find?_some named
  exact beq_iff_eq.mp here

/-- Where members are read, the first one is skipped or read into the field it names. -/
theorem readMembers_cons_inv {format : Format} {seen : List String} {start : Record} {key value : Value}
    {members : List (Value × Value)} {read : Record × List String}
    (reads : shape.readMembers format seen start ((key, value) :: members) = some read) :
    (shape.fieldNamed? key = none ∧ shape.readMembers format seen start members = some read) ∨
      ∃ field record, shape.fieldNamed? key = some field ∧ field.key ∉ seen ∧
        field.read format value start = some record ∧
        shape.readMembers format (field.key :: seen) record members = some read := by
  rw [readMembers] at reads
  split at reads
  · cases reads
  split at reads
  · rename_i unnamed
    split at reads
    · cases reads
    · exact .inl ⟨unnamed, reads⟩
  · rename_i field named
    split at reads
    · cases reads
    rename_i unseen
    split at reads
    · cases reads
    · rename_i record readFirst
      exact .inr ⟨field, record, named, by simpa using unseen, readFirst, reads⟩

/-- Where members are read, each known name has been met at most once and each known member has been read. -/
theorem readMembers_inv {format : Format} {seen : List String} {start : Record} {members : List (Value × Value)}
    {read : Record × List String} (reads : shape.readMembers format seen start members = some read) {name : String}
    {field : RecordField Record} (named : shape.fieldNamed? (.text name) = some field) :
    (name ∈ seen → members.countP (Value.isNamed name) = 0) ∧ members.countP (Value.isNamed name) ≤ 1 ∧
      ∀ value, (Value.text name, value) ∈ members → ∃ start, field.read format value start ≠ none := by
  induction members generalizing seen start with
  | nil => simp
  | cons member members ih =>
      obtain ⟨key, value⟩ := member
      by_cases here : key = .text name
      · subst here
        rcases readMembers_cons_inv reads with ⟨unnamed, _⟩ | ⟨other, record, isOther, unseen, read, reads⟩
        · rw [named] at unnamed
          cases unnamed
        · obtain rfl : field = other := Option.some.inj (named.symm.trans isOther)
          rw [fieldNamed?_key named] at reads unseen
          obtain ⟨gone, _, held⟩ := ih reads
          rw [List.countP_cons_of_pos (Value.isNamed_iff.mpr rfl), gone List.mem_cons_self]
          refine ⟨fun met => absurd met unseen, Nat.le_refl _, fun value' mem => ?_⟩
          rcases List.mem_cons.mp mem with isFirst | later
          · cases isFirst
            exact ⟨start, by simp [read]⟩
          · exact held value' later
      · have behind {value' : Value} (mem : (Value.text name, value') ∈ (key, value) :: members) :
            (Value.text name, value') ∈ members := by
          simpa [Ne.symm here] using mem
        rw [List.countP_cons_of_neg fun isNamed => here (Value.isNamed_iff.mp isNamed)]
        rcases readMembers_cons_inv reads with ⟨_, reads⟩ | ⟨_, _, _, _, _, reads⟩
        · obtain ⟨gone, once, held⟩ := ih reads
          exact ⟨gone, once, fun value mem => held value (behind mem)⟩
        · obtain ⟨gone, once, held⟩ := ih reads
          exact ⟨fun met => gone (List.mem_cons_of_mem _ met), once, fun value mem => held value (behind mem)⟩

theorem readMembers_of_breaks {format : Format} {start : Record} {members : List (Value × Value)}
    (lays : List.Forall₂ RecordField.Lays shape.fields layers) (distinct : (layers.map Layer.name).Nodup)
    {full : Bool} (breaks : (Schema.record full (Layer.known layers)).Breaks (.record members))
    (regular : Value.MembersRegular members) : shape.readMembers format [] start members = none := by
  refine Option.eq_none_iff_forall_ne_some.mpr fun read reads => ?_
  cases breaks with
  | repeated isKnown twice =>
      rw [Layer.names_known] at isKnown
      obtain ⟨layer, mem, rfl⟩ := List.mem_map.mp isKnown
      obtain ⟨field, named, _⟩ := fieldNamed?_of_mem lays distinct mem
      have once := (readMembers_inv reads named).2.1
      omega
  | held isKnown given breaks =>
      obtain ⟨layer, mem, same⟩ := List.mem_map.mp isKnown
      cases same
      obtain ⟨field, named, fieldLays⟩ := fieldNamed?_of_mem lays distinct mem
      obtain ⟨start, isRead⟩ := (readMembers_inv reads named).2.2 _ given
      exact isRead (fieldLays.refuses breaks (regular.of_mem given))

/-- A record whose fields are read by layers that stand apart is read by all layers together. -/
theorem Lays.of_fields (layers : List (Layer Record)) (optional : shape.complete = false)
    (lays : List.Forall₂ RecordField.Lays shape.fields layers) (distinct : (layers.map Layer.name).Nodup)
    (apart : layers.Pairwise Layer.Apart) :
    shape.Lays (.record shape.holdsUnknown (Layer.known layers)) (Layer.lay layers) where
  reads {format document start} follows regular := by
    obtain ⟨members, rfl⟩ := follows.isRecord
    obtain ⟨_, reads⟩ := readMembers_lays lays distinct apart format.deeper follows regular (List.forall_mem_nil _)
      start
    simp [read, reads, optional]
  refuses {format document start} breaks regular := by
    obtain ⟨members, rfl⟩ := breaks.isRecord
    simp [read, readMembers_of_breaks lays distinct breaks regular]
  alike {document other} follows rearranged := by
    funext record
    refine Layer.lay_congr (fun layer mem record => ?_) record
    have isKnown : layer.name ∈ Schema.names (Layer.known layers) :=
      Layer.names_known layers ▸ List.mem_map_of_mem mem
    have under := rearranged.member? follows isKnown
    have followsUnder {value : Value} (found : document.member? layer.name = some value) :
        layer.schema.Follows value :=
      follows.under (List.mem_map_of_mem mem) found
    obtain ⟨field, _, fieldLays⟩ := exists_lays lays mem
    generalize document.member? layer.name = found, other.member? layer.name = found' at under followsUnder ⊢
    cases under with
    | none => rfl
    | some rearranged => exact congrFun (fieldLays.alike (followsUnder rfl) rearranged) record

end Shape

end Locator.Data
