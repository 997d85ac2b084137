import Locator.Interaction.Scroll
import Locator.Page.Browser
import Mathlib.Data.Rat.Floor

/-!
# The stops of a search

Where a search that scrolls in steps of equal length stands after each step, how many of its steps move it
forward, and after how many steps it gives up. All lengths are whole pixels.
-/

namespace Locator

set_option autoImplicit false

/-- Where a search stands after `steps` steps from `start`, in a container that can be scrolled up to
`range`. -/
def stop (range start step : Int) (steps : Nat) : Int :=
  if 0 < step then min (start + steps * step) range else max 0 (start + steps * step)

/-- How many steps from `start` move forward. -/
def advances (range start step : Int) : Nat :=
  if 0 < step then ⌈((range - start : Int) : ℚ) / step⌉₊ else 0

/-- The step after which a search gives up. -/
def lastStep (range start step : Int) (maxStalls : Nat) : Nat :=
  if maxStalls = 0 then 0 else advances range start step + maxStalls

variable {range start step : Int}

theorem stop_zero (nonneg : 0 ≤ start) (inside : start ≤ range) : stop range start step 0 = start := by
  unfold stop
  split <;> simp only [Nat.cast_zero, Int.zero_mul, Int.add_zero] <;> omega

variable (step) in
theorem stop_between (nonneg : 0 ≤ start) (inside : start ≤ range) (steps : Nat) :
    0 ≤ stop range start step steps ∧ stop range start step steps ≤ range := by
  unfold stop
  by_cases forward : 0 < step
  · have gained : 0 ≤ (steps : Int) * step := Int.mul_nonneg (Int.natCast_nonneg _) (by omega)
    simp only [if_pos forward]
    omega
  · have lost : (steps : Int) * step ≤ 0 :=
      Int.mul_nonpos_of_nonneg_of_nonpos (Int.natCast_nonneg _) (by omega)
    simp only [if_neg forward]
    omega

variable (step) in
/-- The next stop is a step further, as far as the content goes. -/
theorem clamp_stop {extent : Int} (nonneg : 0 ≤ start) (inside : start ≤ max 0 extent) (steps : Nat) :
    Element.clamp extent (stop (max 0 extent) start step steps + step) =
      stop (max 0 extent) start step (steps + 1) := by
  have further : ((steps + 1 : Nat) : Int) * step = steps * step + step := by
    rw [Nat.cast_succ, Int.add_mul, Int.one_mul]
  unfold Element.clamp stop
  by_cases forward : 0 < step
  · have gained : 0 ≤ (steps : Int) * step := Int.mul_nonneg (Int.natCast_nonneg _) (by omega)
    simp only [if_pos forward, further]
    omega
  · have lost : (steps : Int) * step ≤ 0 :=
      Int.mul_nonpos_of_nonneg_of_nonpos (Int.natCast_nonneg _) (by omega)
    simp only [if_neg forward, further]
    omega

/-- A step forward is no longer than a step. -/
theorem stop_succ_le (forward : 0 < step) (steps : Nat) :
    stop range start step (steps + 1) ≤ stop range start step steps + step := by
  have further : ((steps + 1 : Nat) : Int) * step = steps * step + step := by
    rw [Nat.cast_succ, Int.add_mul, Int.one_mul]
  simp only [stop, if_pos forward, further]
  omega

theorem lt_advances_iff (forward : 0 < step) (steps : Nat) :
    steps < advances range start step ↔ start + steps * step < range := by
  have positive : (0 : ℚ) < step := by exact_mod_cast forward
  rw [advances, if_pos forward, Nat.lt_ceil, lt_div_iff₀ positive]
  have cast : ((steps : ℚ) * step < ((range - start : Int) : ℚ)) ↔ (steps : Int) * step < range - start := by
    exact_mod_cast Iff.rfl
  rw [cast]
  omega

/-- The steps that move forward come first. -/
theorem stop_lt_stop_succ_iff (steps : Nat) :
    stop range start step steps < stop range start step (steps + 1) ↔
      steps < advances range start step := by
  have further : ((steps + 1 : Nat) : Int) * step = steps * step + step := by
    rw [Nat.cast_succ, Int.add_mul, Int.one_mul]
  by_cases forward : 0 < step
  · rw [lt_advances_iff forward, stop, stop, if_pos forward, if_pos forward, further]
    omega
  · rw [advances, if_neg forward, stop, stop, if_neg forward, if_neg forward, further]
    omega

variable (range step) in
theorem advances_le (nonneg : 0 ≤ start) : (advances range start step : Int) ≤ max 0 range := by
  by_cases forward : 0 < step
  · by_contra beyond
    have last : range.toNat < advances range start step := by omega
    rw [lt_advances_iff forward] at last
    have longer : (range.toNat : Int) * 1 ≤ range.toNat * step :=
      Int.mul_le_mul_of_nonneg_left (by omega) (by omega)
    omega
  · simp only [advances, if_neg forward]
    omega

/-- A search in a container of 64-bit length gives up before its step limit. -/
theorem lastStep_lt_stepLimit {maxStalls : Nat} (nonneg : 0 ≤ start) (fits : range < 0x8000000000000000)
    (stallsFit : maxStalls < 0x100000000) : lastStep range start step maxStalls < stepLimit := by
  have bounded := advances_le range step nonneg
  unfold lastStep stepLimit
  split <;> omega

/-- A search does not pass by a stretch that is at least as long as a step. -/
theorem exists_stop_between {least greatest : Int} {maxStalls : Nat} (nonneg : 0 ≤ start)
    (inside : start ≤ range) (forward : 0 < step) (patient : 1 ≤ maxStalls) (ahead : start ≤ greatest)
    (within : least ≤ range) (wide : step - 1 ≤ greatest - least) :
    ∃ steps, steps ≤ lastStep range start step maxStalls ∧
      least ≤ stop range start step steps ∧ stop range start step steps ≤ greatest := by
  by_cases already : least ≤ start
  · refine ⟨0, Nat.zero_le _, ?_⟩
    rw [stop_zero nonneg inside]
    exact ⟨already, ahead⟩
  · -- The first step that reaches `least` is one of those towards the end of a range that ends there.
    let before := advances least start step
    have reaches : least ≤ start + before * step := by
      by_contra short
      exact absurd ((lt_advances_iff forward before).mpr (by omega)) (Nat.lt_irrefl _)
    have positive : 0 < before := (lt_advances_iff forward 0).mpr (by simp only [Nat.cast_zero]; omega)
    have short : start + ((before - 1 : Nat) : Int) * step < least :=
      (lt_advances_iff forward (before - 1)).mp (by omega)
    have split : (before : Int) * step = ((before - 1 : Nat) : Int) * step + step := by
      have count : (before : Int) = ((before - 1 : Nat) : Int) + 1 := by omega
      rw [count, Int.add_mul, Int.one_mul]
    have early : before ≤ advances range start step := by
      by_contra late
      have beyond := (lt_advances_iff forward (advances range start step)).mp (Nat.lt_of_not_le late)
      have ended : ¬(start + (advances range start step : Int) * step < range) :=
        (lt_advances_iff forward _).not.mp (Nat.lt_irrefl _)
      omega
    refine ⟨before, ?_, ?_⟩
    · unfold lastStep
      rw [if_neg (by omega)]
      omega
    · rw [stop, if_pos forward]
      omega

/-- A search forward comes up to every place there is. -/
theorem exists_stop_reaching {least : Int} {maxStalls : Nat} (nonneg : 0 ≤ start) (inside : start ≤ range)
    (forward : 0 < step) (patient : 1 ≤ maxStalls) (within : least ≤ range) :
    ∃ steps, steps ≤ lastStep range start step maxStalls ∧ least ≤ stop range start step steps := by
  have wide : step - 1 ≤ max start (least + step) - least := by omega
  obtain ⟨steps, inTime, reached, _⟩ :=
    exists_stop_between nonneg inside forward patient (Int.le_max_left _ _) within wide
  exact ⟨steps, inTime, reached⟩

/-- Where all stops before fall short of a place, a stop is less than a step beyond it, unless it is the start. -/
theorem stop_barely {least : Int} {steps : Nat} (nonneg : 0 ≤ start) (inside : start ≤ range) (forward : 0 < step)
    (short : ∀ earlier < steps, stop range start step earlier < least) :
    stop range start step steps = start ∨ stop range start step steps < least + step := by
  cases steps with
  | zero => exact .inl (stop_zero nonneg inside)
  | succ before =>
      have last := short before (Nat.lt_succ_self before)
      have further : stop range start step (before + 1) ≤ _ := stop_succ_le forward before
      exact .inr (by omega)

end Locator
