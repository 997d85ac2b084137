import Locator.Interaction.CountCheck
import Locator.Proofs.Browser.Conclusions
import Locator.Proofs.Browser.Journal

/-!
# Count checks and counts

A count check looks at single matches by their numbers and counts the matches only when that does not show that it
passes. In a browser whose answers fit each other it passes exactly when the count is as expected. In any browser
a check that counts goes by the count.
-/

namespace Locator

set_option autoImplicit false

open Locator.Action

variable {State : Type}

/-- Lookups of a path, and of its matches by their numbers, do not fail and fit each other: as long as the session
is as in `steady` there are `actual` matches, and a match has a number just when that is one of the first
`actual`. -/
structure Browser.Counts (browser : Browser State) (path : Path) (actual : Nat) (steady : State → Prop) : Prop where
  fits : actual ≤ Data.maxUnsigned64
  whole : Keeps steady (browser.findAll path) (fun found => found.length = actual) fun _ => False
  numbered : ∀ number, 1 ≤ number → number ≤ Data.maxUnsigned64 →
    Keeps steady (browser.findAll (path.occurrence (.nth number))) (fun found => found ≠ [] ↔ number ≤ actual)
      fun _ => False

namespace CountCheck

/-- The error of a check that has counted another number of matches. -/
def mismatch (check : CountCheck) (path : Path) (actual : Nat) : Error :=
  ⟨.assertionFailed,
    "expected " ++ check.describe ++ " of " ++ path.describe ++ ", but found " ++ toString actual⟩

/-- Lookups of single matches of the path by their numbers, `most` of them at most. An error is that of one of
them. -/
structure Probes (path : Path) (most : Nat) (answer : Except Error Bool) (entries : List Entry) : Prop where
  few : entries.length ≤ most
  numbered : ∀ entry ∈ entries, ∃ number answer, entry = .findAll (path.occurrence (.nth number)) answer
  failed : ∀ error, answer = .error error → ∃ other, .findAll other (.error error) ∈ entries

theorem nthPresent_eq (browser : Browser State) (path : Path) {number : Nat} (positive : 1 ≤ number) :
    nthPresent browser path number = browser.isPresent (path.occurrence (.nth number)) := by
  have nth : path.nth? number = .ok (path.occurrence (.nth number)) := if_neg (by omega)
  rw [nthPresent, nth]
  rfl

/-! ## Answers that fit each other -/

section Consistent

variable {browser : Browser State} {path : Path} {actual : Nat} {steady : State → Prop}
  (counts : browser.Counts path actual steady)

include counts

theorem nthPresent_keeps {number : Nat} (positive : 1 ≤ number) (fits : number ≤ Data.maxUnsigned64) :
    Keeps steady (nthPresent browser path number) (fun present => present = decide (number ≤ actual))
      fun _ => False := by
  rw [nthPresent_eq browser path positive]
  apply (counts.numbered number positive fits).bind
  intro found present
  apply Keeps.pure
  rw [Bool.eq_iff_iff, decide_eq_true_eq, ← present]
  simp

theorem nextAbsent_keeps (count : Nat) :
    Keeps steady (nextAbsent browser path count) (fun absent => absent = decide (actual ≤ count))
      fun _ => False := by
  unfold nextAbsent
  split
  case isTrue less =>
    apply (nthPresent_keeps counts (Nat.le_add_left 1 count) less).bind
    rintro _ rfl
    apply Keeps.pure
    rw [← decide_not, decide_eq_decide]
    omega
  case isFalse greatest =>
    have fits := counts.fits
    exact .pure (decide_eq_true (by omega)).symm

theorem passesByPosition_keeps {check : CountCheck} (positive : 1 ≤ check.count)
    (fits : check.count ≤ Data.maxUnsigned64) :
    Keeps steady (check.passesByPosition browser path)
      (fun passes => passes = check.comparison.holds actual check.count) fun _ => False := by
  obtain ⟨comparison, count⟩ := check
  cases comparison with
  | atLeast => exact nthPresent_keeps counts positive fits
  | atMost => exact nextAbsent_keeps counts count
  | exactly =>
      apply (nthPresent_keeps counts positive fits).bind
      rintro _ rfl
      by_cases present : count ≤ actual
      · simp only [present, decide_true, if_true]
        apply (nextAbsent_keeps counts count).weaken _ fun _ => id
        rintro _ rfl
        rw [Bool.eq_iff_iff]
        simp [Comparison.holds]
        omega
      · have other : actual ≠ count := by omega
        simp only [present, decide_false, Bool.false_eq_true, if_false]
        exact .pure (by simpa [Comparison.holds] using other)

theorem count_keeps :
    Keeps steady (browser.count path) (fun found => found = actual) fun _ => False :=
  counts.whole.bind fun _ found => .pure found

/-- A check that does not pass going by single matches has counted another number than expected. -/
theorem run_keeps {check : CountCheck} (positive : 1 ≤ check.count) (fits : check.count ≤ Data.maxUnsigned64) :
    Keeps steady (check.run browser path) (fun _ => check.comparison.holds actual check.count = true)
      fun error => check.comparison.holds actual check.count = false ∧ error = check.mismatch path actual := by
  apply (passesByPosition_keeps counts positive fits).bind_sure
  rintro _ rfl
  cases passes : check.comparison.holds actual check.count with
  | true => exact .pure rfl
  | false =>
      apply (count_keeps counts).bind_sure
      rintro _ rfl
      simp only [passes, Bool.false_eq_true, if_false]
      exact .throw ⟨trivial, rfl⟩

end Consistent

/-! ## The calls of a check -/

section Journal

variable {path : Path}

theorem Probes.none (passes : Bool) : Probes path 0 (.ok passes) [] where
  few := Nat.le_refl 0
  numbered := nofun
  failed := nofun

theorem Probes.one (number : Nat) (found : Except Error (List Handle)) (judge : List Handle → Bool) :
    Probes path 1 (found.map judge) [.findAll (path.occurrence (.nth number)) found] where
  few := Nat.le_refl 1
  numbered _ mem := ⟨number, found, List.mem_singleton.mp mem⟩
  failed error failed := by
    cases found with
    | ok found => cases failed
    | error error =>
        cases failed
        exact ⟨_, List.mem_singleton_self _⟩

theorem Probes.append {most more : Nat} {present : Bool} {answer : Except Error Bool} {entries others : List Entry}
    (probes : Probes path most (.ok present) entries) (probes' : Probes path more answer others) :
    Probes path (most + more) answer (entries ++ others) where
  few := by
    rw [List.length_append]
    exact Nat.add_le_add probes.few probes'.few
  numbered entry mem := (List.mem_append.mp mem).elim (probes.numbered entry) (probes'.numbered entry)
  failed error failed := by
    obtain ⟨other, mem⟩ := probes'.failed error failed
    exact ⟨other, List.mem_append_right entries mem⟩

theorem Probes.mono {most more : Nat} {answer : Except Error Bool} {entries : List Entry}
    (probes : Probes path most answer entries) (less : most ≤ more) : Probes path more answer entries :=
  ⟨Nat.le_trans probes.few less, probes.numbered, probes.failed⟩

/-- No match is looked up by its number with the text that the path is looked up with. -/
theorem toXPath_nth_ne (path : Path) (number : Nat) : (path.occurrence (.nth number)).toXPath ≠ path.toXPath := by
  have text : (path.occurrence (.nth number)).toXPath = "(" ++ path.toXPath ++ ")" ++ "[" ++ toString number ++ "]" :=
    rfl
  intro same
  have lengths := congrArg (List.length ∘ String.toList) (text.symm.trans same)
  simp at lengths
  omega

variable (browser : Browser State)

theorem nthPresent_notes {number : Nat} (positive : 1 ≤ number) :
    Notes (nthPresent (browser.noting id) path number) (Probes path 1) := by
  rw [nthPresent_eq _ path positive]
  apply (Notes.of_noting (fun answer => Entry.findAll (path.occurrence (.nth number)) answer)
    (browser.findAll (path.occurrence (.nth number)))).bind
  · rintro error _ rfl
    exact .one number (.error error) fun found => !found.isEmpty
  · rintro found _ rfl
    exact .pure (.one number (.ok found) fun found => !found.isEmpty)

theorem nextAbsent_notes (count : Nat) :
    Notes (nextAbsent (browser.noting id) path count) (Probes path 1) := by
  unfold nextAbsent
  split
  case isTrue =>
    apply (nthPresent_notes browser (Nat.le_add_left 1 count)).bind
    · intro error notes probes
      exact ⟨probes.few, probes.numbered, probes.failed⟩
    · intro present notes probes
      exact .pure (probes.append (.none !present))
  case isFalse => exact .pure ((Probes.none true).mono (Nat.zero_le 1))

theorem passesByPosition_notes {check : CountCheck} (positive : 1 ≤ check.count) :
    Notes (check.passesByPosition (browser.noting id) path) (Probes path 2) := by
  obtain ⟨comparison, count⟩ := check
  cases comparison with
  | atLeast => exact (nthPresent_notes browser positive).weaken fun _ _ probes => probes.mono (Nat.le_succ 1)
  | atMost => exact (nextAbsent_notes browser count).weaken fun _ _ probes => probes.mono (Nat.le_succ 1)
  | exactly =>
      apply (nthPresent_notes browser positive).bind fun _ _ probes => probes.mono (Nat.le_succ 1)
      intro present notes probes
      cases present with
      | true => exact (nextAbsent_notes browser count).weaken fun _ _ => probes.append
      | false => exact .pure ((probes.append (.none false)).mono (Nat.le_succ 1))

/-- How a check ends, and what it looks up: single matches, and all matches if those do not show that it passes. -/
inductive Checked (check : CountCheck) (path : Path) : Except Error Unit → List Entry → Prop where
  | passed {probed : List Entry} (probes : Probes path 2 (.ok true) probed) : Checked check path (.ok ()) probed
  | unprobed {probed : List Entry} {error : Error} (probes : Probes path 2 (.error error) probed) :
      Checked check path (.error error) probed
  | uncounted {probed : List Entry} (probes : Probes path 2 (.ok false) probed) (error : Error) :
      Checked check path (.error error) (probed ++ [.findAll path (.error error)])
  | counted {probed : List Entry} (probes : Probes path 2 (.ok false) probed) (found : List Handle) :
      Checked check path
        (if check.comparison.holds found.length check.count then .ok ()
          else .error (check.mismatch path found.length))
        (probed ++ [.findAll path (.ok found)])

theorem count_notes :
    Notes ((browser.noting id).count path) fun answer notes => ∃ found,
      notes = [.findAll path found] ∧ answer = found.map List.length := by
  apply (Notes.of_noting (fun answer => Entry.findAll path answer) (browser.findAll path)).bind
  · rintro error _ rfl
    exact ⟨_, rfl, rfl⟩
  · rintro found _ rfl
    exact .pure ⟨_, rfl, rfl⟩

theorem run_notes {check : CountCheck} (positive : 1 ≤ check.count) :
    Notes (check.run (browser.noting id) path) (Checked check path) := by
  apply (passesByPosition_notes browser positive).bind fun _ _ => .unprobed
  intro passes probed probes
  cases passes with
  | true =>
      refine .pure ?_
      rw [List.append_nil]
      exact .passed probes
  | false =>
      apply (count_notes browser).bind
      · rintro error _ ⟨found, rfl, failed⟩
        cases found with
        | ok found => cases failed
        | error error =>
            cases failed
            exact .uncounted probes error
      · rintro actual _ ⟨found, rfl, counted⟩
        cases found with
        | error error => cases counted
        | ok found =>
            cases counted
            have checked : Checked check path _ _ := .counted probes found
            cases holds : check.comparison.holds found.length check.count with
            | true =>
                simp only [holds, if_true] at checked ⊢
                refine .pure ?_
                rw [List.append_nil]
                exact checked
            | false =>
                simp only [holds, Bool.false_eq_true, if_false] at checked ⊢
                refine .throw ?_
                rw [List.append_nil]
                exact checked

end Journal

/-! ## Alike browsers -/

section Alike

variable {State' : Type} {matching : State → State' → Prop} {browser : Browser State} {other : Browser State'}
  (alike : browser.Alike matching other) (path : Path)

include alike

theorem nthPresent_alike (number : Nat) :
    Action.Alike matching (nthPresent browser path number) (nthPresent other path number) :=
  (Action.Alike.ofExcept (path.nth? number)).bind alike.isPresent

theorem nextAbsent_alike (count : Nat) :
    Action.Alike matching (nextAbsent browser path count) (nextAbsent other path count) := by
  unfold nextAbsent
  split
  case isTrue => exact (nthPresent_alike alike path (count + 1)).bind fun present => .pure !present
  case isFalse => exact .pure true

theorem passesByPosition_alike (check : CountCheck) :
    Action.Alike matching (check.passesByPosition browser path) (check.passesByPosition other path) := by
  obtain ⟨comparison, count⟩ := check
  cases comparison with
  | atLeast => exact nthPresent_alike alike path count
  | atMost => exact nextAbsent_alike alike path count
  | exactly =>
      apply (nthPresent_alike alike path count).bind
      intro present
      cases present with
      | true => exact nextAbsent_alike alike path count
      | false => exact .pure false

theorem run_alike (check : CountCheck) :
    Action.Alike matching (check.run browser path) (check.run other path) := by
  apply (passesByPosition_alike alike path check).bind
  intro passes
  cases passes with
  | true => exact .pure ()
  | false =>
      apply ((alike.findAll path).bind fun found => .pure found.length).bind
      intro actual
      cases holds : check.comparison.holds actual check.count with
      | true =>
          simp only [if_true]
          exact .pure ()
      | false =>
          simp only [Bool.false_eq_true, if_false]
          exact .throw (check.mismatch path actual)

end Alike

/-! ## Main result -/

theorem outcome_run_of_passes {browser : Browser State} {check : CountCheck} {path : Path} {state after : State}
    (passes : (check.passesByPosition browser path).outcome state = (.ok true, after)) :
    (check.run browser path).outcome state = (.ok (), after) :=
  outcome_bind_of_ok passes

theorem Probes.other {path : Path} {most : Nat} {answer : Except Error Bool} {entries : List Entry}
    (probes : Probes path most answer entries) :
    ∀ entry ∈ entries, ∃ other answer, entry = .findAll other answer ∧ other.toXPath ≠ path.toXPath := by
  intro entry mem
  obtain ⟨number, answer, same⟩ := probes.numbered entry mem
  exact ⟨_, answer, same, toXPath_nth_ne path number⟩

theorem Probes.not_whole {path : Path} {most : Nat} {answer : Except Error Bool} {entries : List Entry}
    (probes : Probes path most answer entries) (found : Except Error (List Handle)) :
    .findAll path found ∉ entries := by
  intro mem
  obtain ⟨other, answer, same, differs⟩ := probes.other _ mem
  cases same
  exact differs rfl

/-- A check that has counted goes by the count. -/
theorem Checked.of_counted {check : CountCheck} {path : Path} {answer : Except Error Unit} {journal : List Entry}
    (checked : Checked check path answer journal) {found : List Handle}
    (counted : .findAll path (.ok found) ∈ journal) :
    answer = if check.comparison.holds found.length check.count then .ok ()
      else .error (check.mismatch path found.length) := by
  cases checked with
  | passed probes => exact absurd counted (probes.not_whole _)
  | unprobed probes => exact absurd counted (probes.not_whole _)
  | uncounted probes error =>
      rcases List.mem_append.mp counted with early | late
      · exact absurd early (probes.not_whole _)
      · simp at late
  | counted probes found' =>
      rcases List.mem_append.mp counted with early | late
      · exact absurd early (probes.not_whole _)
      · obtain rfl : found = found' := by simpa using late
        rfl

/-- An error of a check is that of a lookup, or says that the count is not as expected. -/
theorem Checked.of_error {check : CountCheck} {path : Path} {error : Error} {journal : List Entry}
    (checked : Checked check path (.error error) journal) :
    (∃ other, .findAll other (.error error) ∈ journal) ∨
      ∃ found, .findAll path (.ok found) ∈ journal ∧ error = check.mismatch path found.length := by
  generalize ended : (Except.error error : Except Error Unit) = answer at checked
  cases checked with
  | passed => cases ended
  | unprobed probes =>
      cases ended
      exact .inl (probes.failed error rfl)
  | uncounted probes error' =>
      cases ended
      exact .inl ⟨path, by simp⟩
  | counted probes found =>
      split at ended
      · cases ended
      · cases ended
        exact .inr ⟨found, by simp, rfl⟩

/-- What is known of a check in a browser whose answers fit each other. -/
theorem outcome_of_counts {browser : Browser State} {path : Path} {actual : Nat} {steady : State → Prop}
    (counts : browser.Counts path actual steady) {check : CountCheck} (positive : 1 ≤ check.count)
    (fits : check.count ≤ Data.maxUnsigned64) {state : State} (start : steady state) :
    ((check.passesByPosition browser path).outcome state).1 = .ok (check.comparison.holds actual check.count) ∧
    ((check.run browser path).outcome state).1 =
      if check.comparison.holds actual check.count then .ok () else .error (check.mismatch path actual) := by
  have passed := passesByPosition_keeps counts positive fits state start
  have ended := run_keeps counts positive fits state start
  constructor
  · cases outcome : (check.passesByPosition browser path).outcome state with
    | mk answer after =>
        rw [outcome] at passed
        cases answer with
        | ok passes => exact congrArg Except.ok passed.1
        | error error => exact passed.1.elim
  · cases outcome : (check.run browser path).outcome state with
    | mk answer after =>
        rw [outcome] at ended
        cases answer with
        | ok value => rw [ended.1, if_pos rfl]
        | error error => rw [ended.1.1, ended.1.2, if_neg Bool.false_ne_true]

/-- What a check looks up in any browser. -/
theorem outcome_noting (browser : Browser State) {check : CountCheck} (positive : 1 ≤ check.count) (path : Path)
    (state : State) :
    ∃ journal,
      (check.run (browser.noting id) path).outcome (state, []) =
        (((check.run browser path).outcome state).1, ((check.run browser path).outcome state).2, journal) ∧
      Checked check path ((check.run browser path).outcome state).1 journal ∧
      (((check.passesByPosition browser path).outcome state).1 = .ok true →
        ((check.run browser path).outcome state).1 = .ok () ∧ Probes path 2 (.ok true) journal) := by
  have alike := browser.noting_alike id
  obtain ⟨journal, ran, checked⟩ := (run_notes browser positive).outcome_eq (run_alike alike path check) state []
  obtain ⟨probed, position, probes⟩ :=
    (passesByPosition_notes browser positive).outcome_eq (passesByPosition_alike alike path check) state []
  rw [List.nil_append] at ran position
  refine ⟨journal, ran, checked, ?_⟩
  intro passes
  rw [passes] at position probes
  have passed := outcome_run_of_passes position
  rw [ran] at passed
  simp only [Prod.mk.injEq] at passed
  rw [passed.2.2]
  exact ⟨passed.1, probes⟩

/-- A check that can be made ends by the number of matches in every browser whose answers fit each other, and single
matches show already whether it passes. In any browser a check that passes going by single matches makes two
lookups at most, none of them of the path itself, a check that has counted the matches ends by their number, and no
other check fails unless a lookup does. -/
theorem check_agrees_with_count {check : CountCheck} (positive : 1 ≤ check.count)
    (fits : check.count ≤ Data.maxUnsigned64) (browser : Browser State) (path : Path) :
    of? check.comparison check.count = .ok check ∧
    (∀ actual steady, browser.Counts path actual steady → ∀ state, steady state →
      ((check.passesByPosition browser path).outcome state).1 = .ok (check.comparison.holds actual check.count) ∧
      ((check.run browser path).outcome state).1 =
        if check.comparison.holds actual check.count then .ok () else .error (check.mismatch path actual)) ∧
    ∀ state, ∃ journal,
      (check.run (browser.noting id) path).outcome (state, []) =
        (((check.run browser path).outcome state).1, ((check.run browser path).outcome state).2, journal) ∧
      (((check.passesByPosition browser path).outcome state).1 = .ok true →
        ((check.run browser path).outcome state).1 = .ok () ∧ journal.length ≤ 2 ∧
        ∀ entry ∈ journal, ∃ other answer, entry = .findAll other answer ∧ other.toXPath ≠ path.toXPath) ∧
      (∀ found, .findAll path (.ok found) ∈ journal →
        ((check.run browser path).outcome state).1 =
          if check.comparison.holds found.length check.count then .ok ()
          else .error (check.mismatch path found.length)) ∧
      ∀ error, ((check.run browser path).outcome state).1 = .error error →
        (∃ other, .findAll other (.error error) ∈ journal) ∨
          ∃ found, .findAll path (.ok found) ∈ journal ∧ error = check.mismatch path found.length := by
  refine ⟨if_neg (by omega), ?_, ?_⟩
  · intro actual steady counts state start
    exact outcome_of_counts counts positive fits start
  · intro state
    obtain ⟨journal, ran, checked, passed⟩ := outcome_noting browser positive path state
    refine ⟨journal, ran, ?_, fun found => checked.of_counted, ?_⟩
    · intro passes
      obtain ⟨ended, probes⟩ := passed passes
      exact ⟨ended, probes.few, probes.other⟩
    · intro error ended
      rw [ended] at checked
      exact checked.of_error

/-- A session in which every path matches the same two elements, and nothing else can be done. -/
def twoMatches : Browser Unit where
  find _ := pure ⟨"first"⟩
  findAll path :=
    pure
      (match path.node with
      | .occurrence _ (.nth 1) => [⟨"first"⟩]
      | .occurrence _ (.nth 2) => [⟨"second"⟩]
      | .occurrence _ (.nth _) => []
      | _ => [⟨"first"⟩, ⟨"second"⟩])
  click _ := pure ()
  sendKeys _ _ := pure ()
  clear _ := pure ()
  attribute? _ _ := pure none
  rect _ := pure ⟨0, 0, 0, 0⟩
  isDisplayed _ := pure true
  scrollBy _ _ _ := pure ()
  scrollTo _ _ _ := pure ()
  scrollOffset _ := pure .zero
  setImplicitTimeout _ := pure ()
  implicitTimeout _ := 0

theorem twoMatches_counts : twoMatches.Counts (.tag "li") 2 fun _ => True where
  fits := by decide
  whole := .pure rfl
  numbered number positive _ := by
    match number with
    | 0 => cases positive
    | 1 => exact .pure (by decide)
    | 2 => exact .pure (by decide)
    | number + 3 =>
        have none : ([] : List Handle) ≠ [] ↔ number + 3 ≤ 2 := by simp
        exact .pure none

/-- At the greatest number there is no next match to look for, and two matches are too few for exactly that many. -/
theorem check_agrees_with_count_greatest :
    1 ≤ Data.maxUnsigned64 ∧ Data.maxUnsigned64 ≤ Data.maxUnsigned64 ∧
    twoMatches.Counts (.tag "li") 2 (fun _ => True) ∧
    ((CountCheck.run twoMatches ⟨.atMost, Data.maxUnsigned64⟩ (.tag "li")).outcome ()).1 = .ok () ∧
    ((CountCheck.run twoMatches ⟨.exactly, Data.maxUnsigned64⟩ (.tag "li")).outcome ()).1 =
      .error ⟨.assertionFailed, "expected 18446744073709551615 occurrences of li, but found 2"⟩ := by
  have positive : 1 ≤ Data.maxUnsigned64 := by decide
  have fits : Data.maxUnsigned64 ≤ Data.maxUnsigned64 := Nat.le_refl _
  obtain ⟨-, most, -⟩ :=
    @check_agrees_with_count Unit ⟨.atMost, Data.maxUnsigned64⟩ positive fits twoMatches (.tag "li")
  obtain ⟨-, exactly, -⟩ :=
    @check_agrees_with_count Unit ⟨.exactly, Data.maxUnsigned64⟩ positive fits twoMatches (.tag "li")
  exact ⟨positive, fits, twoMatches_counts, (most 2 _ twoMatches_counts () trivial).2,
    (exactly 2 _ twoMatches_counts () trivial).2⟩

end CountCheck

end Locator
