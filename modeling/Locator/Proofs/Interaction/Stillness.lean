import Locator.Interaction.Stability
import Locator.Proofs.Browser.Journal

/-!
# When watching an element ends

Watching looks at a path again and again. What the looks find is a sequence that depends on the session alone, and
so does the first look that ends the watching: one that fails, one that finds the same element in the same box as
the look before it, or one at whose end the budget is used up. That look is the last, and it gives the answer.
-/

namespace Locator

set_option autoImplicit false

open Locator.Action

variable {State : Type}

/-! ## Looks in a row -/

namespace Browser

/-- One look from a state: nothing where the lookup says that nothing matches, else the first match with its box. Any
other error of the lookup, and every error of reading the box, is an error of the look. -/
def glance (browser : Browser State) (path : Path) (state : State) : Except Error (Option Observation) × State :=
  match (browser.find path).outcome state with
  | (.error error, after) => (if error.cause = .notFound then .ok none else .error error, after)
  | (.ok element, found) =>
      match (browser.rect element).outcome found with
      | (.error error, after) => (.error error, after)
      | (.ok box, after) => (.ok (some { element, box }), after)

/-- The session after so many looks. -/
def afterLooks (browser : Browser State) (path : Path) (state : State) : Nat → State
  | 0 => state
  | look + 1 => (browser.glance path (browser.afterLooks path state look)).2

/-- What the look with a number finds. The first look has number one; before it nothing has been found. -/
def seen (browser : Browser State) (path : Path) (state : State) : Nat → Except Error (Option Observation)
  | 0 => .ok none
  | look + 1 => (browser.glance path (browser.afterLooks path state look)).1

theorem outcome_observe (browser : Browser State) (path : Path) (state : State) :
    (browser.observe path).outcome state = browser.glance path state := by
  unfold observe glance
  rw [outcome_bind_of_ok (outcome_attempt _ _)]
  cases found : (browser.find path).outcome state with
  | mk answer after =>
      cases answer with
      | error error =>
          by_cases missing : error.cause = .notFound
          · simp only [Error.isNotFound_iff, missing, if_true]
            rfl
          · simp only [Error.isNotFound_iff, missing, if_false]
            rfl
      | ok element =>
          cases measured : (browser.rect element).outcome after with
          | mk answer last =>
              cases answer with
              | error error => simp only [outcome_bind_of_error measured, measured]
              | ok box =>
                  simp only [outcome_bind_of_ok measured, measured]
                  rfl

end Browser

/-! ## The first ending -/

/-- How a look ends the watching, going by what the looks find and when the budget is used up. -/
inductive Ending (seen : Nat → Except Error (Option Observation)) (usedUp : Nat → Bool) :
    Nat → Except Error Nat → Prop where
  | failed {look : Nat} {error : Error} (fails : seen look = .error error) : Ending seen usedUp look (.error error)
  | still {look : Nat} {observation : Observation} (before : seen look = .ok (some observation))
      (now : seen (look + 1) = .ok (some observation)) : Ending seen usedUp (look + 1) (.ok (look + 1))
  | usedUp {look : Nat} {found : Option Observation} (sees : seen look = .ok found) (spent : usedUp look = true) :
      Ending seen usedUp look (.ok look)

/-- The look ends the watching, and no look before it does. -/
structure FirstEnding (seen : Nat → Except Error (Option Observation)) (usedUp : Nat → Bool) (look : Nat)
    (answer : Except Error Nat) : Prop where
  looked : 1 ≤ look
  ends : Ending seen usedUp look answer
  first : ∀ earlier answer', 1 ≤ earlier → earlier < look → ¬Ending seen usedUp earlier answer'

section Ending

variable {seen : Nat → Except Error (Option Observation)} {usedUp : Nat → Bool} {look other : Nat}
  {answer answer' : Except Error Nat}

theorem Ending.unique (ending : Ending seen usedUp look answer) (ending' : Ending seen usedUp look answer') :
    answer = answer' := by
  cases ending with
  | failed fails =>
      cases ending' with
      | failed fails' =>
          rw [fails] at fails'
          cases fails'
          rfl
      | still _ now => simp [fails] at now
      | usedUp sees _ => simp [fails] at sees
  | still _ now =>
      cases ending' with
      | failed fails' => simp [now] at fails'
      | still | usedUp => rfl
  | usedUp sees _ =>
      cases ending' with
      | failed fails' => simp [sees] at fails'
      | still | usedUp => rfl

theorem FirstEnding.eq (first : FirstEnding seen usedUp look answer) (ending : Ending seen usedUp other answer')
    (looked : 1 ≤ other) (reached : other ≤ look) : other = look ∧ answer' = answer := by
  rcases Nat.lt_or_eq_of_le reached with before | rfl
  · exact absurd ending (first.first other answer' looked before)
  · exact ⟨rfl, ending.unique first.ends⟩

/-- A look that succeeds within the budget ends the watching only if the look before it found the same. -/
theorem Ending.same_of_left {found : Option Observation} (ending : Ending seen usedUp (look + 1) answer)
    (sees : seen (look + 1) = .ok found) (left : usedUp (look + 1) ≠ true) : found.isSome ∧ seen look = .ok found := by
  generalize next : look + 1 = here at ending sees left
  cases ending with
  | failed fails => simp [sees] at fails
  | still before now =>
      cases Nat.succ.inj next
      cases sees.symm.trans now
      exact ⟨rfl, before⟩
  | usedUp _ spent => exact absurd spent left

end Ending

/-! ## Watching -/

section Watch

variable {browser : Browser State} {path : Path} {state : State} {usedUp : Nat → Bool}

theorem outcome_observe_next (look : Nat) :
    (browser.observe path).outcome (browser.afterLooks path state look) =
      (browser.seen path state (look + 1), browser.afterLooks path state (look + 1)) :=
  browser.outcome_observe path _

/-- Watching that goes on after some looks, none of which ended it, ends with the first look that does. -/
theorem outcome_watch {look : Nat} {answer : Except Error Nat}
    (first : FirstEnding (browser.seen path state) usedUp look answer) (left done : Nat)
    (previous : Option Observation) (before : browser.seen path state done = .ok previous) (going : done < look)
    (enough : look ≤ done + left) :
    (browser.watch path usedUp left done previous).outcome (browser.afterLooks path state done) =
      (answer.map Browser.lookCount, browser.afterLooks path state look) := by
  induction left generalizing done previous with
  | zero => omega
  | succ left ih =>
      have observed := @outcome_observe_next _ browser path state done
      unfold Browser.watch
      cases sees : browser.seen path state (done + 1) with
      | error error =>
          obtain ⟨rfl, rfl⟩ := first.eq (.failed sees) (Nat.le_add_left 1 done) going
          rw [sees] at observed
          exact outcome_bind_of_error observed
      | ok current =>
          rw [sees] at observed
          rw [outcome_bind_of_ok observed]
          by_cases still : current.isSome ∧ current = previous
          · obtain ⟨observation, rfl⟩ := Option.isSome_iff_exists.mp still.1
            rw [← still.2] at before
            obtain ⟨rfl, rfl⟩ := first.eq (.still before sees) (Nat.le_add_left 1 done) going
            rw [if_pos still]
            rfl
          · by_cases spent : usedUp (done + 1) = true
            · obtain ⟨rfl, rfl⟩ := first.eq (.usedUp sees spent) (Nat.le_add_left 1 done) going
              rw [if_neg still, if_pos spent]
              rfl
            · have further : done + 1 ≠ look := by
                rintro rfl
                obtain ⟨present, same⟩ := first.ends.same_of_left sees spent
                rw [before, Except.ok.injEq] at same
                exact still ⟨present, same.symm⟩
              rw [if_neg still, if_neg spent]
              exact ih (done + 1) current sees (by omega) (by omega)

end Watch

/-! ## Lookups -/

/-- The path that is looked up, if the call is a lookup of a first match. -/
def Entry.lookup? : Entry → Option Path
  | .find path _ => some path
  | _ => none

section Journal

variable (browser : Browser State) (path : Path)

theorem glance_noting (state : State) (earlier : List Entry) :
    ∃ notes,
      (browser.noting id).glance path (state, earlier) =
        ((browser.glance path state).1, (browser.glance path state).2, earlier ++ notes) ∧
      notes.filterMap Entry.lookup? = [path] := by
  have found : ((browser.noting id).find path).outcome (state, earlier) =
      (((browser.find path).outcome state).1, ((browser.find path).outcome state).2,
        earlier ++ [.find path ((browser.find path).outcome state).1]) := rfl
  unfold Browser.glance
  rw [found]
  cases (browser.find path).outcome state with
  | mk answer after =>
      cases answer with
      | error error => exact ⟨_, rfl, rfl⟩
      | ok element =>
          have measured : ((browser.noting id).rect element).outcome
              (after, earlier ++ [.find path (.ok element)]) =
            (((browser.rect element).outcome after).1, ((browser.rect element).outcome after).2,
              earlier ++ [.find path (.ok element)] ++ [.rect element ((browser.rect element).outcome after).1]) := rfl
          simp only [measured]
          cases (browser.rect element).outcome after with
          | mk answer last =>
              cases answer with
              | error error => exact ⟨_, by rw [List.append_assoc], rfl⟩
              | ok box => exact ⟨_, by rw [List.append_assoc], rfl⟩

theorem afterLooks_noting (state : State) (looks : Nat) :
    ∃ journal,
      (browser.noting id).afterLooks path (state, []) looks = (browser.afterLooks path state looks, journal) ∧
      journal.filterMap Entry.lookup? = List.replicate looks path := by
  induction looks with
  | zero => exact ⟨[], rfl, rfl⟩
  | succ looks ih =>
      obtain ⟨journal, reached, lookups⟩ := ih
      obtain ⟨notes, glanced, one⟩ := glance_noting browser path (browser.afterLooks path state looks) journal
      refine ⟨journal ++ notes, ?_, ?_⟩
      · simp only [Browser.afterLooks, reached, glanced]
      · rw [List.filterMap_append, lookups, one, List.replicate_succ']

theorem seen_noting (state : State) : (browser.noting id).seen path (state, []) = browser.seen path state := by
  funext look
  cases look with
  | zero => rfl
  | succ look =>
      obtain ⟨journal, reached, -⟩ := afterLooks_noting browser path state look
      obtain ⟨notes, glanced, -⟩ := glance_noting browser path (browser.afterLooks path state look) journal
      simp only [Browser.seen, reached, glanced]

end Journal

/-! ## Main result -/

/-- An answer with fewer looks than 32 bits can count is returned as it is. -/
theorem FirstEnding.counted {seen : Nat → Except Error (Option Observation)} {usedUp : Nat → Bool} {look : Nat}
    {answer : Except Error Nat} (first : FirstEnding seen usedUp look answer) (few : look < 0x100000000) :
    answer.map Browser.lookCount = answer := by
  have kept : Browser.lookCount look = look := Nat.mod_eq_of_lt few
  cases first.ends with
  | failed => rfl
  | still | usedUp => exact congrArg Except.ok kept

/-- A page on which the element is gone at the second look. -/
def flicker : Browser Nat where
  find path := fun turn => (if turn = 1 then .error ⟨.notFound, path.toXPath⟩ else .ok ⟨"item"⟩, turn + 1)
  findAll _ := pure []
  click _ := pure ()
  sendKeys _ _ := pure ()
  clear _ := pure ()
  attribute? _ _ := pure none
  rect _ := pure ⟨0, 0, 100, 20⟩
  isDisplayed _ := pure true
  scrollBy _ _ _ := pure ()
  scrollTo _ _ _ := pure ()
  scrollOffset _ := pure .zero
  setImplicitTimeout _ := pure ()
  implicitTimeout _ := 0

theorem flicker_first : FirstEnding (flicker.seen (.tag "li") 0) (fun _ => false) 4 (.ok 4) where
  looked := by decide
  ends := @Ending.still _ _ 3 ⟨⟨"item"⟩, ⟨0, 0, 100, 20⟩⟩ rfl rfl
  first := by
    intro earlier answer' looked before ending
    obtain ⟨look, rfl⟩ : ∃ look, earlier = look + 1 := ⟨earlier - 1, by omega⟩
    match look with
    | 0 | 2 => cases (ending.same_of_left rfl Bool.false_ne_true).2
    | 1 => cases (ending.same_of_left rfl Bool.false_ne_true).1

end Locator
