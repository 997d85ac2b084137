import Locator.Grid.Navigation
import Locator.Proofs.Browser.Timeouts

/-!
# How actions conclude

Rules for what holds when an action is over: one condition for the value it ends with, one for the error,
each with the state that is left.
-/

namespace Locator

set_option autoImplicit false

variable {State Whole Value Result : Type}

namespace Action

/-- From a state as in `before`, the action ends with a value as in `good` or with an error as in `bad`. -/
def Concludes (before : State → Prop) (action : Action State Value) (good : Value → State → Prop)
    (bad : Error → State → Prop) : Prop :=
  ∀ state, before state →
    match action.outcome state with
    | (.ok value, after) => good value after
    | (.error error, after) => bad error after

variable {before : State → Prop} {action : Action State Value} {good : Value → State → Prop}
  {bad : Error → State → Prop}

theorem Concludes.of_ok {value : State → Value} {after : State → State}
    (ended : ∀ state, before state → action.outcome state = (.ok (value state), after state))
    (holds : ∀ state, before state → good (value state) (after state)) :
    Concludes before action good bad := by
  intro state start
  rw [ended state start]
  exact holds state start

theorem Concludes.pure {value : Value} (holds : ∀ state, before state → good value state) :
    Concludes before (pure value) good bad :=
  .of_ok (fun _ _ => rfl) holds

theorem Concludes.throw {error : Error} (holds : ∀ state, before state → bad error state) :
    Concludes before (throw error : Action State Value) good bad := by
  intro state start
  exact holds state start

theorem Concludes.ofExcept {result : Except Error Value}
    (holds : ∀ value, result = .ok value → ∀ state, before state → good value state)
    (fails : ∀ error, result = .error error → ∀ state, before state → bad error state) :
    Concludes before (ofExcept result) good bad := by
  cases result with
  | ok value => exact .pure (holds value rfl)
  | error error => exact .throw (fails error rfl)

theorem Concludes.bind {middle : Value → State → Prop} {next : Value → Action State Result}
    {last : Result → State → Prop} (first : Concludes before action middle bad)
    (later : ∀ value, Concludes (middle value) (next value) last bad) :
    Concludes before (action >>= next) last bad := by
  intro state start
  have ended := first state start
  cases outcome : action.outcome state with
  | mk result after =>
      rw [outcome] at ended
      cases result with
      | ok value =>
          rw [outcome_bind_of_ok outcome]
          exact later value after ended
      | error error =>
          rw [outcome_bind_of_error outcome]
          exact ended

theorem Concludes.weaken {good' : Value → State → Prop} {bad' : Error → State → Prop}
    (concludes : Concludes before action good bad)
    (holds : ∀ value state, good value state → good' value state)
    (fails : ∀ error state, bad error state → bad' error state) :
    Concludes before action good' bad' := by
  intro state start
  have ended := concludes state start
  cases outcome : action.outcome state with
  | mk result after =>
      rw [outcome] at ended
      cases result with
      | ok value => exact holds value after ended
      | error error => exact fails error after ended

theorem Concludes.strengthen {before' : State → Prop} (concludes : Concludes before action good bad)
    (start : ∀ state, before' state → before state) : Concludes before' action good bad :=
  fun state started => concludes state (start state started)

theorem Concludes.attempt {good : Except Error Value → State → Prop} {bad : Error → State → Prop}
    (concludes : Concludes before action (fun value => good (.ok value)) fun error => good (.error error)) :
    Concludes before action.attempt good bad := by
  intro state start
  have ended := concludes state start
  rw [outcome_attempt]
  cases outcome : action.outcome state with
  | mk result after =>
      rw [outcome] at ended
      cases result with
      | ok value => exact ended
      | error error => exact ended

/-- What is known anyway holds when the action is over. -/
theorem Concludes.of_fact {fact : Prop} (holds : fact) :
    Concludes before action (fun _ _ => fact) fun _ _ => True := by
  intro state _
  cases action.outcome state with
  | mk result after =>
      cases result with
      | ok value => exact holds
      | error error => trivial

theorem Concludes.and {good' : Value → State → Prop} {bad' : Error → State → Prop}
    (concludes : Concludes before action good bad) (concludes' : Concludes before action good' bad') :
    Concludes before action (fun value state => good value state ∧ good' value state)
      fun error state => bad error state ∧ bad' error state := by
  intro state start
  have ended := concludes state start
  have ended' := concludes' state start
  cases outcome : action.outcome state with
  | mk result after =>
      rw [outcome] at ended ended'
      cases result with
      | ok value => exact ⟨ended, ended'⟩
      | error error => exact ⟨ended, ended'⟩

/-- What holds of the start of an action that is known may be used in the proof for it. -/
theorem Concludes.given (fact : Prop) (known : ∀ state, before state → fact)
    (concludes : fact → Concludes before action good bad) : Concludes before action good bad :=
  fun state start => concludes (known state start) state start

/-- What an action does on a session, it does on a session beside a grid. -/
theorem Concludes.beside {left : Action State Value} {right : Action (Grid × State) Value}
    {before : Grid × State → Prop} {good : Value → Grid × State → Prop} {bad : Error → Grid × State → Prop}
    (alike : ∀ grid, Alike (fun state whole => whole = (grid, state)) left right)
    (concludes : ∀ grid, Concludes (fun state => before (grid, state)) left
      (fun value state => good value (grid, state)) fun error state => bad error (grid, state)) :
    Concludes before right good bad := by
  rintro ⟨grid, state⟩ start
  have ended := concludes grid state start
  obtain ⟨ending, after⟩ := alike grid state (grid, state) rfl
  cases outcome : left.outcome state with
  | mk result final =>
      rw [outcome] at ended ending after
      have whole : right.outcome (grid, state) = (result, grid, final) := Prod.ext ending.symm after
      rw [whole]
      cases result with
      | ok value => exact ended
      | error error => exact ended

/-- An action under another timeout. What holds after it has to hold still when the timeout is set again. -/
theorem Concludes.withTimeout {browser : Browser State} {during after : Nat} {body : Action State Value}
    {lowered : State → Prop}
    (lowers : Concludes before (browser.setImplicitTimeout during) (fun _ => lowered) bad)
    (runs : Concludes lowered body good bad)
    (keeps : ∀ value state, good value state →
      good value ((browser.setImplicitTimeout after).outcome state).2)
    (keepsFailed : ∀ error state, bad error state →
      bad error ((browser.setImplicitTimeout after).outcome state).2) :
    Concludes before (browser.withTimeout during after body) good bad := by
  intro state start
  have set := lowers state start
  cases outcome : (browser.setImplicitTimeout during).outcome state with
  | mk ending low =>
      rw [outcome] at set
      cases ending with
      | error error =>
          rw [Browser.withTimeout_of_refused outcome]
          exact set
      | ok _ =>
          rw [Browser.withTimeout_of_lowered outcome]
          have ended := runs low set
          cases ran : body.outcome low with
          | mk result final =>
              rw [ran] at ended
              cases result with
              | ok value => exact keeps value final ended
              | error error => exact keepsFailed error final ended

theorem Concludes.withLoweredTimeout {browser : Browser State} {during : Nat} {body : Action State Value}
    {lowered : State → Prop}
    (lowers : Concludes before (browser.setImplicitTimeout during) (fun _ => lowered) bad)
    (runs : Concludes lowered body good bad)
    (keeps : ∀ after value state, good value state →
      good value ((browser.setImplicitTimeout after).outcome state).2)
    (keepsFailed : ∀ after error state, bad error state →
      bad error ((browser.setImplicitTimeout after).outcome state).2) :
    Concludes before (browser.withLoweredTimeout during body) good bad := by
  intro state start
  rw [Browser.outcome_withLoweredTimeout]
  exact lowers.withTimeout runs (keeps _) (keepsFailed _) state start

theorem outcome_known (whole : Grid × State) : Action.outcome Grid.known whole = (.ok whole.1, whole) :=
  rfl

theorem Concludes.underTimeouts {before : Grid × State → Prop} {browser : Browser (Grid × State)}
    {body : GridAction State Value} {good : Value → Grid × State → Prop} {bad : Error → Grid × State → Prop}
    (sets : ∀ milliseconds, Concludes before (browser.setImplicitTimeout milliseconds) (fun _ => before) bad)
    (runs : Concludes before body good bad)
    (keeps : ∀ milliseconds value whole, good value whole →
      good value ((browser.setImplicitTimeout milliseconds).outcome whole).2)
    (keepsFailed : ∀ milliseconds error whole, bad error whole →
      bad error ((browser.setImplicitTimeout milliseconds).outcome whole).2) :
    Concludes before (Grid.underTimeouts browser body) good bad := by
  intro whole start
  rw [Grid.underTimeouts, outcome_bind_of_ok (outcome_known whole)]
  exact (sets _).withTimeout runs (keeps _) (keepsFailed _) whole start

/-! ## Endings that are known -/

/-- From every state as in `before`, the action ends with `result`, in a state as in `after`. -/
def Ends (before : State → Prop) (action : Action State Value) (result : Except Error Value)
    (after : State → Prop) : Prop :=
  ∀ state, before state → ∃ final, action.outcome state = (result, final) ∧ after final

theorem Ends.pure {value : Value} : Ends before (pure value) (.ok value) before :=
  fun state start => ⟨state, rfl, start⟩

theorem Ends.throw {error : Error} : Ends before (throw error : Action State Value) (.error error) before :=
  fun state start => ⟨state, rfl, start⟩

theorem Ends.bind {middle last : State → Prop} {value : Value} {next : Value → Action State Result}
    {result : Except Error Result} (first : Ends before action (.ok value) middle)
    (later : Ends middle (next value) result last) : Ends before (action >>= next) result last := by
  intro state start
  obtain ⟨final, outcome, reached⟩ := first state start
  rw [outcome_bind_of_ok outcome]
  exact later final reached

theorem Ends.of_outcome {result ended : Except Error Value} {after : State → Prop} {state final : State}
    (ends : Ends before action result after) (start : before state)
    (outcome : action.outcome state = (ended, final)) : ended = result ∧ after final := by
  obtain ⟨reached, ended, holds⟩ := ends state start
  rw [outcome] at ended
  cases ended
  exact ⟨rfl, holds⟩

/-! ## What an action keeps -/

/-- Where `kept` holds, the action ends with a value as in `good` or with an error as in `bad`, and `kept` holds
still. -/
def Keeps (kept : State → Prop) (action : Action State Value) (good : Value → Prop) (bad : Error → Prop) :
    Prop :=
  Concludes kept action (fun value after => good value ∧ kept after) fun error after => bad error ∧ kept after

variable {kept : State → Prop} {good : Value → Prop} {bad : Error → Prop}

theorem Keeps.pure {value : Value} (holds : good value) : Keeps kept (pure value) good bad :=
  Concludes.pure fun _ start => ⟨holds, start⟩

theorem Keeps.throw {error : Error} (holds : bad error) :
    Keeps kept (throw error : Action State Value) good bad :=
  Concludes.throw fun _ start => ⟨holds, start⟩

theorem Keeps.ofExcept {result : Except Error Value} (holds : ∀ value, result = .ok value → good value)
    (fails : ∀ error, result = .error error → bad error) : Keeps kept (ofExcept result) good bad :=
  Concludes.ofExcept (fun value ended _ start => ⟨holds value ended, start⟩)
    fun error ended _ start => ⟨fails error ended, start⟩

theorem Keeps.weaken {good' : Value → Prop} {bad' : Error → Prop} (keeps : Keeps kept action good bad)
    (holds : ∀ value, good value → good' value) (fails : ∀ error, bad error → bad' error) :
    Keeps kept action good' bad' :=
  Concludes.weaken keeps (fun value _ ended => ⟨holds value ended.1, ended.2⟩)
    fun error _ ended => ⟨fails error ended.1, ended.2⟩

theorem Keeps.bind_concludes {next : Value → Action State Result} {last : Result → State → Prop}
    {failed : Error → State → Prop} (keeps : Keeps kept action good bad)
    (fails : ∀ error state, bad error → kept state → failed error state)
    (later : ∀ value, good value → Concludes kept (next value) last failed) :
    Concludes kept (action >>= next) last failed := by
  have first := Concludes.weaken keeps (fun value state ended => ended)
    fun error state ended => fails error state ended.1 ended.2
  apply first.bind
  intro value state ended
  exact later value ended.1 state ended.2

theorem Keeps.bind {next : Value → Action State Result} {last : Result → Prop}
    (keeps : Keeps kept action good bad) (later : ∀ value, good value → Keeps kept (next value) last bad) :
    Keeps kept (action >>= next) last bad :=
  keeps.bind_concludes (fun _ _ failed start => ⟨failed, start⟩) later

/-- The error condition of what comes first need only imply that of the whole. -/
theorem Keeps.then {next : Value → Action State Result} {last : Result → Prop} {failed : Error → Prop}
    (keeps : Keeps kept action good bad) (fails : ∀ error, bad error → failed error)
    (later : ∀ value, good value → Keeps kept (next value) last failed) :
    Keeps kept (action >>= next) last failed :=
  (keeps.weaken (fun _ holds => holds) fails).bind later

/-- After an action that cannot fail. -/
theorem Keeps.bind_sure {next : Value → Action State Result} {last : Result → Prop} {failed : Error → Prop}
    (keeps : Keeps kept action good fun _ => False)
    (later : ∀ value, good value → Keeps kept (next value) last failed) :
    Keeps kept (action >>= next) last failed :=
  keeps.then (fun _ => False.elim) later

theorem Keeps.attempt {good : Except Error Value → Prop} {bad : Error → Prop}
    (keeps : Keeps kept action (fun value => good (.ok value)) fun error => good (.error error)) :
    Keeps kept action.attempt good bad :=
  Concludes.attempt keeps

/-- What follows an error that is turned into a value may use how the action fails. -/
theorem Keeps.attempt_bind {next : Except Error Value → Action State Result} {last : Result → Prop}
    {failed : Error → Prop} (keeps : Keeps kept action good bad)
    (succeeded : ∀ value, good value → Keeps kept (next (.ok value)) last failed)
    (caught : ∀ error, bad error → Keeps kept (next (.error error)) last failed) :
    Keeps kept (action.attempt >>= next) last failed := by
  intro state start
  have ended := keeps state start
  rw [outcome_bind_of_ok (outcome_attempt action state)]
  cases outcome : action.outcome state with
  | mk result after =>
      rw [outcome] at ended
      cases result with
      | ok value => exact succeeded value ended.1 after ended.2
      | error error => exact caught error ended.1 after ended.2

end Action

/-- An action beside a grid does what it does alone, and leaves the grid. -/
theorem Action.beside_alike (action : Action State Value) (grid : Grid) :
    Alike (fun state whole => whole = (grid, state)) action
      (action.onPart Prod.snd fun state (whole : Grid × State) => (whole.1, state)) := by
  intro state whole equal
  subst equal
  exact ⟨rfl, rfl⟩

theorem Browser.beside_alike (browser : Browser State) (grid : Grid) :
    browser.Alike (fun state whole => whole = (grid, state)) browser.besideGrid := by
  constructor <;> intros <;> exact Action.beside_alike _ grid

end Locator
