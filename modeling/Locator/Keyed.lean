/-!
# Values by key

A finite map from strings that keeps its keys in the order in which they were first added.
-/

namespace Locator

set_option autoImplicit false

/-- Values by key. -/
structure Keyed (α : Type) where
  entries : List (String × α)
  deriving DecidableEq

namespace Keyed

variable {α : Type}

/-- No key at all. -/
def empty : Keyed α := ⟨[]⟩

/-- The value of the first entry with the key. -/
def find? (key : String) : List (String × α) → Option α
  | [] => none
  | (other, value) :: entries => if other = key then some value else find? key entries

/-- The entries with the value of `key` replaced, or added at the end. -/
def set (key : String) (value : α) : List (String × α) → List (String × α)
  | [] => [(key, value)]
  | (other, old) :: entries =>
      if other = key then (key, value) :: entries else (other, old) :: set key value entries

/-- The value of a key. -/
def get? (map : Keyed α) (key : String) : Option α :=
  find? key map.entries

/-- The map with the value of `key` replaced or added. -/
def insert (map : Keyed α) (key : String) (value : α) : Keyed α :=
  ⟨set key value map.entries⟩

/-- The map without `key`. -/
def erase (map : Keyed α) (key : String) : Keyed α :=
  ⟨map.entries.filter fun entry => entry.1 != key⟩

/-- The map of the entries, later ones replacing earlier ones of the same key. -/
def ofList (entries : List (String × α)) : Keyed α :=
  entries.foldl (fun map entry => map.insert entry.1 entry.2) empty

theorem get?_empty (key : String) : (empty : Keyed α).get? key = none := rfl

theorem mem_of_get? {map : Keyed α} {key : String} {value : α} (found : map.get? key = some value) :
    (key, value) ∈ map.entries := by
  obtain ⟨entries⟩ := map
  simp only [get?] at found ⊢
  induction entries with
  | nil => simp [find?] at found
  | cons entry entries ih =>
      obtain ⟨other, old⟩ := entry
      simp only [find?] at found
      split at found
      · simp_all
      · exact List.mem_cons_of_mem _ (ih found)

theorem get?_insert (map : Keyed α) (key other : String) (value : α) :
    (map.insert key value).get? other = if key = other then some value else map.get? other := by
  obtain ⟨entries⟩ := map
  simp only [get?, insert]
  induction entries with
  | nil => simp [set, find?]
  | cons entry entries ih =>
      obtain ⟨name, old⟩ := entry
      simp only [set]
      by_cases same : name = key
      · subst same
        simp only [if_pos, find?]
        split <;> rfl
      · simp only [if_neg same, find?]
        by_cases reached : name = other
        · subst reached
          simp [Ne.symm same]
        · simp [reached, ih]

theorem get?_erase (map : Keyed α) (key other : String) :
    (map.erase key).get? other = if key = other then none else map.get? other := by
  obtain ⟨entries⟩ := map
  simp only [get?, erase]
  induction entries with
  | nil => simp [find?]
  | cons entry entries ih =>
      obtain ⟨name, old⟩ := entry
      by_cases same : name = key
      · subst same
        simp only [bne_self_eq_false, Bool.false_eq_true, not_false_eq_true, List.filter_cons_of_neg,
          ih, find?]
        split <;> rfl
      · simp only [List.filter_cons, bne_iff_ne, ne_eq, same, not_false_eq_true, if_pos, find?, ih]
        by_cases reached : name = other
        · subst reached
          simp [Ne.symm same]
        · simp [reached]

end Keyed

end Locator
