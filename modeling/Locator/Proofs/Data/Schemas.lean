import Locator.Data.Value
import Mathlib.Data.List.Perm.Basic

/-!
# Schemas of documents

What a document has to hold for a record with defaults to be read from it: whole numbers in their ranges under
known names, each at most once, in any order and among members of any other names. Beside it stand what makes a
document unreadable whatever else it holds, and the documents that differ in the order of members alone.
-/

namespace Locator.Data

set_option autoImplicit false

/-- A whole number in a range, or a record with named members. In a record that is `full` the members of all
other names are plain values. -/
inductive Schema where
  | integer (least greatest : Int)
  | record (full : Bool) (members : List (String × Schema))

namespace Value

/-- The whole number that the value is. -/
def whole? : Value → Option Int
  | .integer negative magnitude => some (if negative then -(magnitude : Int) else magnitude)
  | _ => none

/-- True of the members of that name. -/
def isNamed (name : String) (member : Value × Value) : Bool :=
  member.1.text? == some name

/-- A value without parts: null, a truth value, a text, a whole number, or another number if a double can hold
it. -/
def IsPlain : Value → Prop
  | .null | .bool _ | .text _ | .integer _ _ => True
  | .decimal _ digits exponent => decimalIsFinite digits exponent = true
  | .empty | .garbled | .list _ | .record _ => False

/-- The first member of that name. -/
def member? (name : String) : Value → Option Value
  | .record members => (members.find? (isNamed name)).map Prod.snd
  | _ => none

/-- The whole number that stands first under that name. -/
def number? (name : String) (document : Value) : Option Int :=
  (document.member? name).bind whole?

/-- Two values that differ in the order of members alone, at any depth. -/
inductive Rearranged : Value → Value → Prop
  | refl (value : Value) : Rearranged value value
  | reordered {members others : List (Value × Value)} (order : members.Perm others) :
      Rearranged (.record members) (.record others)
  | inside {key value other : Value} (before after : List (Value × Value)) (rearranged : Rearranged value other) :
      Rearranged (.record (before ++ (key, value) :: after)) (.record (before ++ (key, other) :: after))
  | trans {value between other : Value} (first : Rearranged value between) (second : Rearranged between other) :
      Rearranged value other

theorem isNamed_iff {name : String} {member : Value × Value} : isNamed name member = true ↔ member.1 = .text name := by
  obtain ⟨key, value⟩ := member
  cases key <;> simp [isNamed, text?]

end Value

namespace Schema

/-- The names of a record that stand for something. -/
def names (members : List (String × Schema)) : List String :=
  members.map Prod.fst

/-- The document is what the schema asks for. Members of names that the schema does not know may hold anything, or
in a full record any plain value. -/
inductive Follows : Schema → Value → Prop
  | integer {least greatest number : Int} {value : Value} (whole : value.whole? = some number)
      (fits : least ≤ number ∧ number ≤ greatest) : Follows (.integer least greatest) value
  | record {full : Bool} {known : List (String × Schema)} {members : List (Value × Value)}
      (named : ∀ key value, (key, value) ∈ members → ∃ name, key = .text name)
      (once : ∀ name ∈ names known, members.countP (Value.isNamed name) ≤ 1)
      (held : ∀ name schema, (name, schema) ∈ known → ∀ value, (Value.text name, value) ∈ members →
        Follows schema value)
      (others : full = true → ∀ name value, (Value.text name, value) ∈ members → name ∉ names known →
        value.IsPlain) :
      Follows (.record full known) (.record members)

theorem Follows.isRecord {full : Bool} {known : List (String × Schema)} {document : Value}
    (follows : Follows (.record full known) document) : ∃ members, document = .record members := by
  cases follows with
  | record => exact ⟨_, rfl⟩

/-- The document holds something that the schema rules out: another value than a number in the range, or a known
name twice in one record. Nothing is said about the rest of the document. -/
inductive Breaks : Schema → Value → Prop
  | integer {least greatest : Int} {value : Value}
      (misfit : ∀ number, value.whole? = some number → number < least ∨ greatest < number) :
      Breaks (.integer least greatest) value
  | repeated {full : Bool} {known : List (String × Schema)} {members : List (Value × Value)} {name : String}
      (isKnown : name ∈ names known) (twice : 1 < members.countP (Value.isNamed name)) :
      Breaks (.record full known) (.record members)
  | held {full : Bool} {known : List (String × Schema)} {members : List (Value × Value)} {name : String}
      {schema : Schema} {value : Value} (isKnown : (name, schema) ∈ known)
      (given : (Value.text name, value) ∈ members) (breaks : Breaks schema value) :
      Breaks (.record full known) (.record members)

theorem Breaks.isRecord {full : Bool} {known : List (String × Schema)} {document : Value}
    (breaks : Breaks (.record full known) document) : ∃ members, document = .record members := by
  cases breaks with
  | repeated | held => exact ⟨_, rfl⟩

end Schema

namespace Value

variable {full : Bool} {known : List (String × Schema)} {value other : Value} {members others : List (Value × Value)}
  {name : String}

theorem member?_eq_none_iff : (record members).member? name = none ↔ members.countP (isNamed name) = 0 := by
  simp [member?, List.countP_eq_zero]

theorem member?_cons_self : (record ((.text name, value) :: members)).member? name = some value := by
  simp [member?, isNamed, text?]

theorem member?_cons_of_ne {other : String} (differ : name ≠ other) :
    (record ((.text name, value) :: members)).member? other = (record members).member? other := by
  simp [member?, isNamed, text?, differ]

theorem member?_tail {member : Value × Value} (missing : (record (member :: members)).member? name = none) :
    (record members).member? name = none := by
  rw [member?_eq_none_iff, List.countP_cons] at missing
  rw [member?_eq_none_iff]
  omega

theorem mem_of_member? (found : (record members).member? name = some value) : (.text name, value) ∈ members := by
  obtain ⟨⟨key, _⟩, first, rfl⟩ := Option.map_eq_some_iff.mp found
  obtain rfl : key = .text name := isNamed_iff.mp (List.find?_some first)
  exact List.mem_of_find?_eq_some first

theorem member?_eq_some_iff (once : members.countP (isNamed name) ≤ 1) :
    (record members).member? name = some value ↔ (.text name, value) ∈ members := by
  refine ⟨mem_of_member?, fun mem => ?_⟩
  induction members with
  | nil => cases mem
  | cons first members ih =>
      rw [List.countP_cons] at once
      by_cases isFirst : isNamed name first = true
      · rw [if_pos isFirst] at once
        have alone : (Value.text name, value) ∉ members := fun later =>
          absurd (List.countP_pos_iff.mpr ⟨_, later, isNamed_iff.mpr rfl⟩) (by omega)
        rcases List.mem_cons.mp mem with rfl | later
        · simp [member?, isFirst]
        · exact absurd later alone
      · have later : (Value.text name, value) ∈ members := by
          rcases List.mem_cons.mp mem with rfl | later
          · exact absurd (isNamed_iff.mpr rfl) isFirst
          · exact later
        have found := ih (by omega) later
        simpa [member?, isFirst] using found

end Value

namespace Schema.Follows

variable {full : Bool} {known : List (String × Schema)}

section Record

variable {key value : Value} {members : List (Value × Value)} {name : String}
  (follows : Follows (.record full known) (.record members))
include follows

theorem named (mem : (key, value) ∈ members) : ∃ name, key = .text name := by
  cases follows with
  | record named => exact named key value mem

theorem once (isKnown : name ∈ names known) : members.countP (Value.isNamed name) ≤ 1 := by
  cases follows with
  | record _ once => exact once name isKnown

theorem held {schema : Schema} (isKnown : (name, schema) ∈ known) (mem : (.text name, value) ∈ members) :
    schema.Follows value := by
  cases follows with
  | record _ _ held => exact held name schema isKnown value mem

theorem others (isFull : full = true) (mem : (.text name, value) ∈ members) (isUnknown : name ∉ names known) :
    value.IsPlain := by
  cases follows with
  | record _ _ _ others => exact others isFull name value mem isUnknown

end Record

theorem nil : Follows (.record full known) (.record []) :=
  .record nofun (fun _ _ => Nat.zero_le 1) nofun nofun

/-- A member comes before others that follow the schema: one that is known and not there yet, or any other one. -/
theorem cons {name : String} {value : Value} {members : List (Value × Value)}
    (held : ∀ schema, (name, schema) ∈ known → schema.Follows value)
    (once : name ∈ names known → (Value.record members).member? name = none)
    (plain : full = true → name ∉ names known → value.IsPlain)
    (behind : Follows (.record full known) (.record members)) :
    Follows (.record full known) (.record ((.text name, value) :: members)) := by
  refine .record ?_ ?_ ?_ ?_
  · intro key value mem
    rcases List.mem_cons.mp mem with first | later
    · cases first
      exact ⟨name, rfl⟩
    · exact behind.named later
  · intro other isKnown
    by_cases same : name = other
    · subst same
      have missing := Value.member?_eq_none_iff.mp (once isKnown)
      rw [List.countP_cons_of_pos (Value.isNamed_iff.mpr rfl)]
      omega
    · rw [List.countP_cons_of_neg fun isNamed => same (Value.text.inj (Value.isNamed_iff.mp isNamed))]
      exact behind.once isKnown
  · intro other schema isKnown value mem
    rcases List.mem_cons.mp mem with first | later
    · cases first
      exact held schema isKnown
    · exact behind.held isKnown later
  · intro isFull other value mem isUnknown
    rcases List.mem_cons.mp mem with first | later
    · cases first
      exact plain isFull isUnknown
    · exact behind.others isFull later isUnknown

theorem tail {member : Value × Value} {members : List (Value × Value)}
    (follows : Follows (.record full known) (.record (member :: members))) :
    Follows (.record full known) (.record members) := by
  refine .record ?_ ?_ ?_ ?_
  · exact fun _ _ mem => follows.named (List.mem_cons_of_mem _ mem)
  · intro name isKnown
    have once := follows.once isKnown
    rw [List.countP_cons] at once
    omega
  · exact fun _ _ isKnown _ mem => follows.held isKnown (List.mem_cons_of_mem _ mem)
  · exact fun isFull _ _ mem => follows.others isFull (List.mem_cons_of_mem _ mem)

theorem missing_behind {name : String} {value : Value} {members : List (Value × Value)}
    (follows : Follows (.record full known) (.record ((.text name, value) :: members)))
    (isKnown : name ∈ names known) : (Value.record members).member? name = none := by
  have once := follows.once isKnown
  rw [List.countP_cons_of_pos (Value.isNamed_iff.mpr rfl)] at once
  rw [Value.member?_eq_none_iff]
  omega

theorem under {document value : Value} {name : String} {schema : Schema}
    (follows : Follows (.record full known) document) (isKnown : (name, schema) ∈ known)
    (found : document.member? name = some value) : schema.Follows value := by
  cases follows with
  | record named once held others => exact held _ _ isKnown _ (Value.mem_of_member? found)

theorem reordered {members others : List (Value × Value)} (order : members.Perm others) {schema : Schema}
    (follows : schema.Follows (.record members)) : schema.Follows (.record others) := by
  cases follows with
  | integer whole => cases whole
  | record named once held unknown =>
      refine .record ?_ ?_ ?_ ?_
      · exact fun key value mem => named key value (order.mem_iff.mpr mem)
      · exact fun name isKnown => order.countP_eq _ ▸ once name isKnown
      · exact fun name schema isKnown value mem => held name schema isKnown value (order.mem_iff.mpr mem)
      · exact fun full name value mem => unknown full name value (order.mem_iff.mpr mem)

/-- One member may hold another value, if that is as good as the one before. -/
theorem replaced {key value other : Value} {before after : List (Value × Value)} {schema : Schema}
    (good : ∀ {schema : Schema}, schema.Follows value → schema.Follows other)
    (plain : value.IsPlain → other.IsPlain)
    (follows : schema.Follows (.record (before ++ (key, value) :: after))) :
    schema.Follows (.record (before ++ (key, other) :: after)) := by
  have here : (key, value) ∈ before ++ (key, value) :: after := List.mem_append_right _ List.mem_cons_self
  have same_or_here {key' value' : Value} (mem : (key', value') ∈ before ++ (key, other) :: after) :
      (key', value') ∈ before ++ (key, value) :: after ∨ key' = key ∧ value' = other := by
    simp only [List.mem_append, List.mem_cons, Prod.mk.injEq] at mem ⊢
    tauto
  cases follows with
  | integer whole => cases whole
  | record named once held unknown =>
      refine .record ?_ ?_ ?_ ?_
      · intro key' value' mem
        rcases same_or_here mem with same | ⟨rfl, rfl⟩
        · exact named _ _ same
        · exact named _ _ here
      · intro name isKnown
        have once := once name isKnown
        rw [List.countP_append, List.countP_cons] at once ⊢
        exact once
      · intro name schema isKnown value' mem
        rcases same_or_here mem with same | ⟨rfl, rfl⟩
        · exact held _ _ isKnown _ same
        · exact good (held _ _ isKnown _ here)
      · intro full name value' mem isUnknown
        rcases same_or_here mem with same | ⟨rfl, rfl⟩
        · exact unknown full _ _ same isUnknown
        · exact plain (unknown full _ _ here isUnknown)

end Schema.Follows

namespace Value.Rearranged

variable {full : Bool} {known : List (String × Schema)} {value other : Value}

theorem isPlain (rearranged : value.Rearranged other) (plain : value.IsPlain) : other.IsPlain := by
  induction rearranged with
  | refl => exact plain
  | reordered => exact plain.elim
  | inside => exact plain.elim
  | trans _ _ first second => exact second (first plain)

theorem follows (rearranged : value.Rearranged other) {schema : Schema} (follows : schema.Follows value) :
    schema.Follows other := by
  induction rearranged generalizing schema with
  | refl => exact follows
  | reordered order => exact follows.reordered order
  | inside before after rearranged ih => exact follows.replaced ih rearranged.isPlain
  | trans _ _ first second => exact second (first follows)

theorem whole?_eq (rearranged : value.Rearranged other) : value.whole? = other.whole? := by
  induction rearranged with
  | refl => rfl
  | reordered => rfl
  | inside => rfl
  | trans _ _ first second => exact first.trans second

theorem rel_refl (found : Option Value) : Option.Rel Rearranged found found := by
  cases found with
  | none => exact .none
  | some => exact .some (.refl _)

theorem rel_trans {value between other : Option Value} :
    Option.Rel Rearranged value between → Option.Rel Rearranged between other → Option.Rel Rearranged value other
  | .none, .none => .none
  | .some first, .some second => .some (first.trans second)

/-- Where a known name stands at most once, the order does not matter to what stands under it. -/
theorem member? (rearranged : value.Rearranged other) (follows : (Schema.record full known).Follows value)
    {name : String} (isKnown : name ∈ Schema.names known) :
    Option.Rel Rearranged (value.member? name) (other.member? name) := by
  induction rearranged with
  | refl => exact rel_refl _
  | @reordered members others order =>
      have same : (record members).member? name = (record others).member? name := by
        ext value
        rw [member?_eq_some_iff (follows.once isKnown),
          member?_eq_some_iff ((follows.reordered order).once isKnown), order.mem_iff]
      exact same ▸ rel_refl _
  | @inside key value other before after rearranged =>
      have sameName : isNamed name (key, other) = isNamed name (key, value) := rfl
      simp only [Value.member?, List.find?_append, List.find?_cons, sameName]
      cases before.find? (isNamed name) with
      | some => exact rel_refl _
      | none =>
          cases isNamed name (key, value) with
          | true => exact .some rearranged
          | false => exact rel_refl _
  | trans first _ ihFirst ihSecond => exact rel_trans (ihFirst follows) (ihSecond (first.follows follows))

end Value.Rearranged

end Locator.Data
