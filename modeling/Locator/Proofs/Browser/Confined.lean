import Locator.Interaction.Scroll
import Locator.Proofs.Browser.Conclusions

/-!
# What browsers keep and how they fail

When every operation of a browser keeps a condition on the session and fails only in certain ways, the
interactions built from them do so too, and add few failures of their own.
-/

namespace Locator

set_option autoImplicit false

variable {State Value Result : Type} {kept : State → Prop} {bad : Error → Prop}

namespace Action

/-- The action keeps a condition and fails only as in `bad`. -/
def Confined (kept : State → Prop) (action : Action State Value) (bad : Error → Prop) : Prop :=
  Keeps kept action (fun _ => True) bad

variable {action : Action State Value} {next : Value → Action State Result}

theorem Confined.pure (value : Value) : Confined kept (pure value) bad :=
  Keeps.pure trivial

theorem Confined.throw {error : Error} (holds : bad error) :
    Confined kept (throw error : Action State Value) bad :=
  Keeps.throw holds

theorem Confined.bind (first : Confined kept action bad) (later : ∀ value, Confined kept (next value) bad) :
    Confined kept (action >>= next) bad :=
  Keeps.bind first fun value _ => later value

theorem Confined.weaken {bad' : Error → Prop} (confined : Confined kept action bad)
    (fails : ∀ error, bad error → bad' error) : Confined kept action bad' :=
  Keeps.weaken confined (fun _ holds => holds) fails

theorem Confined.concludes (confined : Confined kept action bad) :
    Concludes kept action (fun _ => kept) fun _ => kept :=
  Concludes.weaken confined (fun _ _ ended => ended.2) fun _ _ ended => ended.2

theorem Confined.keeps {state : State} (confined : Confined kept action bad) (start : kept state) :
    kept (action.outcome state).2 := by
  have ended := confined state start
  generalize action.outcome state = outcome at ended ⊢
  obtain ⟨result, after⟩ := outcome
  cases result with
  | ok value => exact ended.2
  | error error => exact ended.2

theorem Confined.attempt_bind {next : Except Error Value → Action State Result}
    (first : Confined kept action bad) (succeeded : ∀ value, Confined kept (next (.ok value)) bad)
    (failed : ∀ error, bad error → Confined kept (next (.error error)) bad) :
    Confined kept (action.attempt >>= next) bad :=
  Keeps.attempt_bind first (fun value _ => succeeded value) failed

theorem Confined.unlessMissing (confined : Confined kept action bad) {error : Error} (fails : bad error) :
    Confined kept (if error.isNotFound then action else MonadExcept.throw error) bad := by
  cases error.isNotFound with
  | true => exact confined
  | false => exact .throw fails

theorem Confined.attempt (confined : Confined kept action bad) : Confined kept action.attempt bad := by
  apply Keeps.attempt
  exact Keeps.weaken confined (fun _ _ => trivial) fun _ _ => trivial

end Action

open Locator.Action

/-- Every operation of the browser keeps a condition and fails only as in `bad`. -/
structure Browser.Confined (kept : State → Prop) (browser : Browser State) (bad : Error → Prop) : Prop where
  find : ∀ path, Action.Confined kept (browser.find path) bad
  findAll : ∀ path, Action.Confined kept (browser.findAll path) bad
  click : ∀ handle, Action.Confined kept (browser.click handle) bad
  sendKeys : ∀ handle keys, Action.Confined kept (browser.sendKeys handle keys) bad
  clear : ∀ handle, Action.Confined kept (browser.clear handle) bad
  attribute? : ∀ handle name, Action.Confined kept (browser.attribute? handle name) bad
  rect : ∀ handle, Action.Confined kept (browser.rect handle) bad
  isDisplayed : ∀ handle, Action.Confined kept (browser.isDisplayed handle) bad
  scrollBy : ∀ handle dx dy, Action.Confined kept (browser.scrollBy handle dx dy) bad
  scrollTo : ∀ handle x y, Action.Confined kept (browser.scrollTo handle x y) bad
  scrollOffset : ∀ handle, Action.Confined kept (browser.scrollOffset handle) bad
  setImplicitTimeout : ∀ milliseconds, Action.Confined kept (browser.setImplicitTimeout milliseconds) bad

theorem Browser.confined_trivially (browser : Browser State) :
    browser.Confined (fun _ => True) fun _ => True := by
  have any {Value : Type} (action : Action State Value) : Action.Confined (fun _ => True) action fun _ => True := by
    intro state _
    split <;> exact ⟨trivial, trivial⟩
  constructor <;> intros <;> exact any _

section Interactions

variable {browser : Browser State} (confined : browser.Confined kept bad)

include confined

theorem Browser.Confined.isPresent (path : Path) : Action.Confined kept (browser.isPresent path) bad :=
  (confined.findAll path).bind fun _ => .pure _

theorem Browser.Confined.locate (target : Target) : Action.Confined kept (browser.locate target) bad := by
  cases target with
  | handle handle => exact .pure handle
  | path path => exact confined.find path

theorem Browser.Confined.clickOn (target : Target) : Action.Confined kept (browser.clickOn target) bad := by
  apply (confined.locate target).bind
  intro handle
  exact (confined.click handle).bind fun _ => .pure handle

theorem Browser.Confined.withTimeout {body : Action State Value} (runs : Action.Confined kept body bad)
    (during after : Nat) : Action.Confined kept (browser.withTimeout during after body) bad := by
  apply (confined.setImplicitTimeout during).bind
  intro _
  apply runs.attempt_bind
  · intro value
    exact (confined.setImplicitTimeout after).attempt.bind fun _ => .pure value
  · intro error fails
    exact (confined.setImplicitTimeout after).attempt.bind fun _ => .throw fails

namespace Scroller

theorem ofTarget_confined (target : Target) : Confined kept (ofTarget browser target) bad :=
  (confined.locate target).bind fun _ => .pure _

theorem place_confined (scroller : Scroller) (direction : Direction) :
    Confined kept (scroller.place browser direction) bad :=
  (confined.scrollOffset scroller.container).bind fun _ => .pure _

theorem step_confined (scroller : Scroller) (direction : Direction) :
    Confined kept (scroller.step browser direction) bad := by
  cases direction with
  | down => exact confined.scrollBy _ _ _
  | right => exact confined.scrollBy _ _ _

variable {accept : Handle → Action State Bool} (accepts : ∀ candidate, Confined kept (accept candidate) bad)

omit confined in
include accepts in
theorem firstAccepted_confined (candidates : List Handle) :
    Confined kept (firstAccepted accept candidates) bad := by
  induction candidates with
  | nil => exact .pure none
  | cons candidate others ih =>
      apply (accepts candidate).bind
      intro accepted
      cases accepted with
      | true => exact .pure (some candidate)
      | false => exact ih

omit confined in
/-- Of candidates about which a question can be asked without a trace, the first is taken for which it is true. -/
theorem firstAccepted_concludes {answer : Handle → State → Except Error Bool}
    (reads : ∀ candidate state, (accept candidate).outcome state = (answer candidate state, state))
    (state : State) (candidates : List Handle) :
    Concludes (fun now => now = state) (firstAccepted accept candidates)
      (fun first after => first = candidates.find? (fun candidate => (answer candidate state).toOption.getD false) ∧
        after = state) fun _ after => after = state := by
  induction candidates with
  | nil => exact .pure fun _ same => ⟨rfl, same⟩
  | cons candidate others ih =>
      have asks : Concludes (fun now => now = state) (accept candidate)
          (fun accepted after => answer candidate state = .ok accepted ∧ after = state)
          fun _ after => after = state := by
        rintro now rfl
        rw [reads]
        cases answer candidate now with
        | ok accepted => exact ⟨rfl, rfl⟩
        | error error => rfl
      apply asks.bind
      intro accepted
      apply Concludes.given (answer candidate state = .ok accepted) fun _ answered => answered.1
      intro answered
      cases accepted with
      | true => exact .pure fun _ same => ⟨by simp [answered, Except.toOption], same.2⟩
      | false =>
          apply (ih.strengthen fun _ same => same.2).weaken
          · intro first after ended
            refine ⟨?_, ended.2⟩
            rw [ended.1]
            simp [answered, Except.toOption]
          · exact fun _ _ same => same

omit confined in
/-- What a search ends with, its last probe has accepted: nothing is done after that. -/
theorem searchFrom_concludes {scroller : Scroller} {direction : Direction} {path : Path}
    {found : Handle → State → Prop} {failed : Error → State → Prop}
    (probes : Concludes kept (probe browser path accept)
      (fun first state => match first with
        | some handle => found handle state
        | none => kept state) failed)
    (places : Concludes kept (scroller.place browser direction) (fun _ => kept) failed)
    (steps : Concludes kept (scroller.step browser direction) (fun _ => kept) failed)
    (ended : ∀ error state, error.cause ≠ .invalidArgument → kept state → failed error state)
    (limit stalls taken : Nat) :
    Concludes kept (scroller.searchFrom browser direction path accept limit stalls taken) found failed := by
  induction limit generalizing stalls taken with
  | zero => exact .throw fun state => ended _ state (by simp)
  | succ limit ih =>
      apply probes.bind
      intro first
      cases first with
      | some handle => exact .pure fun _ accepted => accepted
      | none =>
          by_cases patient : scroller.settings.maxStalls ≤ stalls
          · simp only [patient, if_true]
            exact .throw fun state => ended _ state (by simp [exhausted])
          · simp only [patient, if_false]
            apply places.bind
            intro before
            apply steps.bind
            intro _
            apply places.bind
            intro after
            exact ih _ _

variable (others : ∀ error, error.cause ≠ .invalidArgument → bad error)

include others

omit confined in
theorem searchFrom_confined_of {scroller : Scroller} {direction : Direction} {path : Path}
    (probes : Confined kept (probe browser path accept) bad)
    (places : Confined kept (scroller.place browser direction) bad)
    (steps : Confined kept (scroller.step browser direction) bad) (limit stalls taken : Nat) :
    Confined kept (scroller.searchFrom browser direction path accept limit stalls taken) bad := by
  apply searchFrom_concludes
  · apply Concludes.weaken probes
    · intro first state ended
      cases first with
      | some handle => exact ended
      | none => exact ended.2
    · exact fun _ _ ended => ended
  · exact Concludes.weaken places (fun _ _ ended => ended.2) fun _ _ ended => ended
  · exact Concludes.weaken steps (fun _ _ ended => ended.2) fun _ _ ended => ended
  · exact fun error state other start => ⟨others error other, start⟩

include accepts

theorem untilAccepted_confined (scroller : Scroller) (direction : Direction) (path : Path) :
    Confined kept (scroller.untilAccepted browser direction path accept) bad := by
  have probes : Confined kept (probe browser path accept) bad :=
    (confined.findAll path).bind fun candidates => firstAccepted_confined accepts candidates
  exact searchFrom_confined_of others probes (place_confined confined scroller direction)
    (step_confined confined scroller direction) stepLimit 0 0

omit accepts in
theorem untilPresent_confined (scroller : Scroller) (direction : Direction) (path : Path) :
    Confined kept (scroller.untilPresent browser direction path) bad :=
  untilAccepted_confined confined (fun _ => .pure true) others scroller direction path

end Scroller

end Interactions

end Locator
