/-!
# Cutting text at a character and joining pieces

`cut` always yields at least one piece, so a text without the separator is its own only piece, and
joining the pieces with the separator gives the text back.
-/

namespace Locator.Text

set_option autoImplicit false

/-- The pieces of `text` between the occurrences of `separator`, empty pieces included. -/
def cut (separator : Char) : List Char → List (List Char)
  | [] => [[]]
  | head :: tail =>
      if head = separator then [] :: cut separator tail
      else
        match cut separator tail with
        | [] => [[head]]
        | piece :: pieces => (head :: piece) :: pieces

/-- The parts in order, with `separator` between neighbours. -/
def join (separator : String) : List String → String
  | [] => ""
  | [part] => part
  | part :: next :: parts => part ++ separator ++ join separator (next :: parts)

theorem cut_ne_nil (separator : Char) (text : List Char) : cut separator text ≠ [] := by
  cases text with
  | nil => simp [cut]
  | cons head tail =>
      simp only [cut]
      split
      · simp
      · split <;> simp

/-- Every piece is free of the separator. -/
theorem separator_not_mem_of_mem_cut {separator : Char} {text piece : List Char}
    (member : piece ∈ cut separator text) : separator ∉ piece := by
  induction text generalizing piece with
  | nil => simp_all [cut]
  | cons head tail ih =>
      simp only [cut] at member
      split at member
      · rcases List.mem_cons.mp member with rfl | rest
        · simp
        · exact ih rest
      · rename_i different
        split at member
        · simp_all [cut_ne_nil]
        · rename_i first others pieces
          rcases List.mem_cons.mp member with rfl | rest
          · have clean := @ih first (by simp [pieces])
            simp [clean, Ne.symm different]
          · exact ih (by simp [pieces, rest])

theorem cut_of_not_mem {separator : Char} {text : List Char} (clean : separator ∉ text) :
    cut separator text = [text] := by
  induction text with
  | nil => rfl
  | cons head tail ih =>
      rw [List.mem_cons, not_or] at clean
      simp [cut, Ne.symm clean.1, ih clean.2]

/-- The pieces of a text are those in front of a separator and those behind it. -/
theorem cut_append (separator : Char) (front back : List Char) :
    cut separator (front ++ separator :: back) = cut separator front ++ cut separator back := by
  induction front with
  | nil => simp [cut]
  | cons head front ih =>
      have nonempty := cut_ne_nil separator front
      simp only [List.cons_append, cut, ih]
      split
      · rfl
      · cases pieces : cut separator front with
        | nil => exact absurd pieces nonempty
        | cons piece others => rfl

/-- Joining the pieces with the separator gives the text back. -/
theorem intercalate_cut (separator : Char) (text : List Char) :
    [separator].intercalate (cut separator text) = text := by
  induction text with
  | nil => simp [cut, List.intercalate]
  | cons head tail ih =>
      have nonempty := cut_ne_nil separator tail
      simp only [cut]
      split
      · rename_i same
        subst same
        cases pieces : cut head tail with
        | nil => exact absurd pieces nonempty
        | cons piece others =>
            rw [pieces] at ih
            simp_all [List.intercalate]
      · cases pieces : cut separator tail with
        | nil => exact absurd pieces nonempty
        | cons piece others =>
            rw [pieces] at ih
            cases others with
            | nil => simp_all [List.intercalate]
            | cons next rest => simp_all [List.intercalate]

end Locator.Text
