import Locator.Proofs.Browser.Timeouts

/-!
# Actions that end for the same cause

Two runs need not record the same calls, nor report the same number of steps, to be the same for whoever waits
for their outcome: both end with one value, or with errors of one cause.
-/

namespace Locator

set_option autoImplicit false

variable {State State' Value Result : Type}

namespace Action

/-- Both runs end with the same value, with states as in `after`, or with errors of the same cause. -/
inductive Akin (after : Value → State → State' → Prop) :
    Except Error Value × State → Except Error Value × State' → Prop where
  | ok (value : Value) {state : State} {state' : State'} (holds : after value state state') :
      Akin after (.ok value, state) (.ok value, state')
  | error {error error' : Error} {state : State} {state' : State'} (same : error.cause = error'.cause) :
      Akin after (.error error, state) (.error error', state')

/-- From states as in `before`, the actions end akin. -/
def Agree (before : State → State' → Prop) (left : Action State Value) (right : Action State' Value)
    (after : Value → State → State' → Prop) : Prop :=
  ∀ state state', before state state' → Akin after (left.outcome state) (right.outcome state')

variable {before : State → State' → Prop} {left : Action State Value} {right : Action State' Value}
  {after : Value → State → State' → Prop}

theorem Akin.mapError {ended : Except Error Value × State} {ended' : Except Error Value × State'}
    (akin : Akin after ended ended') : ended.1.mapError Error.cause = ended'.1.mapError Error.cause := by
  cases akin with
  | ok value holds => rfl
  | error same => exact congrArg Except.error same

theorem Akin.of_mapError {ended : Except Error Value × State} {ended' : Except Error Value × State'}
    (same : ended.1.mapError Error.cause = ended'.1.mapError Error.cause)
    (holds : ∀ value, after value ended.2 ended'.2) : Akin after ended ended' := by
  obtain ⟨result, state⟩ := ended
  obtain ⟨result', state'⟩ := ended'
  cases result with
  | ok value =>
      cases result' with
      | ok value' =>
          cases same
          exact .ok value (holds value)
      | error error' => cases same
  | error error =>
      cases result' with
      | ok value' => cases same
      | error error' => exact .error (Except.error.inj same)

theorem Alike.agree (alike : Alike before left right) : Agree before left right fun _ => before := by
  intro state state' start
  obtain ⟨ending, holds⟩ := alike state state' start
  exact .of_mapError (congrArg _ ending) fun _ => holds

theorem Agree.pure {value : Value} (holds : ∀ state state', before state state' → after value state state') :
    Agree before (pure value) (pure value) after :=
  fun state state' start => .ok value (holds state state' start)

theorem Agree.weaken {after' : Value → State → State' → Prop} (agree : Agree before left right after)
    (holds : ∀ value state state', after value state state' → after' value state state') :
    Agree before left right after' := by
  intro state state' start
  have akin := agree state state' start
  generalize left.outcome state = ended at akin ⊢
  generalize right.outcome state' = ended' at akin ⊢
  cases akin with
  | ok value final => exact .ok value (holds _ _ _ final)
  | error same => exact .error same

theorem Agree.strengthen {before' : State → State' → Prop} (agree : Agree before left right after)
    (start : ∀ state state', before' state state' → before state state') : Agree before' left right after :=
  fun state state' started => agree state state' (start state state' started)

theorem Agree.bind {next : Value → Action State Result} {next' : Value → Action State' Result}
    {last : Result → State → State' → Prop} (first : Agree before left right after)
    (later : ∀ value, Agree (after value) (next value) (next' value) last) :
    Agree before (left >>= next) (right >>= next') last := by
  intro state state' start
  have akin := first state state' start
  cases leftEnd : left.outcome state with
  | mk result final =>
      cases rightEnd : right.outcome state' with
      | mk result' final' =>
          rw [leftEnd, rightEnd] at akin
          cases akin with
          | ok value holds =>
              rw [outcome_bind_of_ok leftEnd, outcome_bind_of_ok rightEnd]
              exact later value final final' holds
          | error same =>
              rw [outcome_bind_of_error leftEnd, outcome_bind_of_error rightEnd]
              exact .error same

/-- The first values may be used in the proof for what comes after. -/
theorem Agree.bind_good {good : Value → Prop} {next : Value → Action State Result}
    {next' : Value → Action State' Result} {last : Result → State → State' → Prop}
    (first : Agree before left right fun value state state' => good value ∧ after value state state')
    (later : ∀ value, good value → Agree (after value) (next value) (next' value) last) :
    Agree before (left >>= next) (right >>= next') last := by
  apply first.bind
  rintro value state state' ⟨holds, middle⟩
  exact later value holds state state' middle

theorem Agree.throw (error : Error) :
    Agree before (throw error : Action State Value) (throw error : Action State' Value) after :=
  fun _ _ _ => .error rfl

theorem Agree.withTimeout {browser : Browser State} {other : Browser State'} {during later : Nat}
    {lowered : State → State' → Prop}
    (lowers : Agree before (browser.setImplicitTimeout during) (other.setImplicitTimeout during) fun _ => lowered)
    (runs : Agree lowered left right after)
    (keeps : ∀ value state state', after value state state' →
      after value ((browser.setImplicitTimeout later).outcome state).2
        ((other.setImplicitTimeout later).outcome state').2) :
    Agree before (browser.withTimeout during later left) (other.withTimeout during later right) after := by
  intro state state' start
  have set := lowers state state' start
  cases leftSet : (browser.setImplicitTimeout during).outcome state with
  | mk result low =>
      cases rightSet : (other.setImplicitTimeout during).outcome state' with
      | mk result' low' =>
          rw [leftSet, rightSet] at set
          cases set with
          | error same =>
              rw [Browser.withTimeout_of_refused leftSet, Browser.withTimeout_of_refused rightSet]
              exact .error same
          | ok _ holds =>
              rw [Browser.withTimeout_of_lowered leftSet, Browser.withTimeout_of_lowered rightSet]
              have akin := runs low low' holds
              generalize left.outcome low = ended at akin ⊢
              generalize right.outcome low' = ended' at akin ⊢
              cases akin with
              | ok value final => exact .ok value (keeps _ _ _ final)
              | error same => exact .error same

end Action

end Locator
