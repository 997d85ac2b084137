import Locator.Error

/-!
# Actions

An action runs against a state, may change it, and ends with a value or an error. Changes made before an
error stay made: nothing is rolled back.
-/

namespace Locator

set_option autoImplicit false

/-- A computation on a state of type `State` that ends with a value or an error. -/
abbrev Action (State Value : Type) :=
  ExceptT Error (StateM State) Value

namespace Action

variable {State Value : Type}

/-- The outcome of an action in a state, and the state it leaves. -/
def outcome (action : Action State Value) (state : State) : Except Error Value × State :=
  (ExceptT.run action).run state

/-- The action with its error turned into a value. -/
def attempt (action : Action State Value) : Action State (Except Error Value) :=
  fun state =>
    let (result, state) := action.outcome state
    (.ok result, state)

/-- Reads the state by a function that cannot fail. -/
def look (read : State → Value) : Action State Value :=
  fun state => (.ok (read state), state)

/-- Changes the state by a function that cannot fail. -/
def update (change : State → State) : Action State Unit :=
  fun state => (.ok (), change state)

/-- Changes the state by a function that fails or gives a value and a new state. -/
def ofStep (step : State → Except Error (Value × State)) : Action State Value :=
  fun state =>
    match step state with
    | .ok (value, state) => (.ok value, state)
    | .error error => (.error error, state)

/-- An action on one part of a larger state. -/
def onPart {Whole : Type} (get : Whole → State) (set : State → Whole → Whole)
    (action : Action State Value) : Action Whole Value :=
  fun whole =>
    let (result, state) := action.outcome (get whole)
    (result, set state whole)

end Action

end Locator
