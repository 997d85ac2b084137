import Locator.Interaction.Choice

/-!
# Alike browsers

Two browsers are alike when they answer alike as long as their states match, whatever matching states are.
How they set the implicit timeout is left open: what does not set it cannot tell the two apart.
-/

namespace Locator

set_option autoImplicit false

variable {State State' Value Result : Type}

/-! ## Outcomes -/

namespace Action

@[simp]
theorem outcome_ofExcept (result : Except Error Value) (state : State) :
    (ofExcept result : Action State Value).outcome state = (result, state) := by
  cases result <;> rfl

@[simp]
theorem outcome_look (read : State → Value) (state : State) :
    (Action.look read).outcome state = (.ok (read state), state) :=
  rfl

@[simp]
theorem outcome_update (change : State → State) (state : State) :
    (Action.update change).outcome state = (.ok (), change state) :=
  rfl

@[simp]
theorem outcome_attempt (action : Action State Value) (state : State) :
    action.attempt.outcome state = (.ok (action.outcome state).1, (action.outcome state).2) :=
  rfl

theorem outcome_onPart {Whole : Type} (get : Whole → State) (set : State → Whole → Whole)
    (action : Action State Value) (whole : Whole) :
    (action.onPart get set).outcome whole =
      ((action.outcome (get whole)).1, set (action.outcome (get whole)).2 whole) :=
  rfl

theorem outcome_bind_of_ok {action : Action State Value} {next : Value → Action State Result}
    {state after : State} {value : Value} (ended : action.outcome state = (.ok value, after)) :
    (action >>= next).outcome state = (next value).outcome after := by
  change (ExceptT.bindCont next (action.outcome state).1).run (action.outcome state).2 = _
  rw [ended]
  rfl

theorem outcome_bind_of_error {action : Action State Value} {next : Value → Action State Result}
    {state after : State} {error : Error} (ended : action.outcome state = (.error error, after)) :
    (action >>= next).outcome state = (.error error, after) := by
  change (ExceptT.bindCont next (action.outcome state).1).run (action.outcome state).2 = _
  rw [ended]
  rfl

/-! ## Alike actions -/

/-- From matching states both actions end alike, in matching states again. -/
def Alike (matching : State → State' → Prop) (left : Action State Value)
    (right : Action State' Value) : Prop :=
  ∀ state state', matching state state' →
    (left.outcome state).1 = (right.outcome state').1 ∧
      matching (left.outcome state).2 (right.outcome state').2

variable {matching : State → State' → Prop}

theorem Alike.pure (value : Value) : Alike matching (pure value) (pure value) := by
  intro state state' same
  exact ⟨rfl, same⟩

theorem Alike.throw (error : Error) :
    Alike matching (throw error : Action State Value) (throw error) := by
  intro state state' same
  exact ⟨rfl, same⟩

theorem Alike.ofExcept (result : Except Error Value) :
    Alike matching (ofExcept result) (ofExcept result) := by
  cases result with
  | ok value => exact .pure value
  | error error => exact .throw error

theorem Alike.bind {left : Action State Value} {right : Action State' Value}
    {next : Value → Action State Result} {next' : Value → Action State' Result}
    (first : Alike matching left right) (later : ∀ value, Alike matching (next value) (next' value)) :
    Alike matching (left >>= next) (right >>= next') := by
  intro state state' same
  obtain ⟨ending, after⟩ := first state state' same
  cases leftEnd : left.outcome state with
  | mk result final =>
      cases rightEnd : right.outcome state' with
      | mk result' final' =>
          rw [leftEnd, rightEnd] at ending after
          simp only at ending after
          subst ending
          cases result with
          | ok value =>
              rw [outcome_bind_of_ok leftEnd, outcome_bind_of_ok rightEnd]
              exact later value final final' after
          | error error =>
              rw [outcome_bind_of_error leftEnd, outcome_bind_of_error rightEnd]
              exact ⟨rfl, after⟩

theorem Alike.attempt {left : Action State Value} {right : Action State' Value}
    (alike : Alike matching left right) : Alike matching left.attempt right.attempt := by
  intro state state' same
  obtain ⟨ending, after⟩ := alike state state' same
  rw [outcome_attempt, outcome_attempt, ending]
  exact ⟨rfl, after⟩

theorem Alike.map {left : Action State Value} {right : Action State' Value} (change : Value → Result)
    (alike : Alike matching left right) : Alike matching (change <$> left) (change <$> right) := by
  rw [map_eq_pure_bind, map_eq_pure_bind]
  exact alike.bind fun value => .pure (change value)

theorem Alike.unlessMissing {left : Action State Value} {right : Action State' Value}
    (alike : Alike matching left right) (error : Error) :
    Alike matching (if error.isNotFound then left else MonadExcept.throw error)
      (if error.isNotFound then right else MonadExcept.throw error) := by
  cases error.isNotFound with
  | true => exact alike
  | false => exact .throw error

end Action

/-! ## Alike browsers -/

/-- From matching states, all operations but the one that sets the implicit timeout end alike, in matching
states again. -/
structure Browser.Alike (matching : State → State' → Prop) (browser : Browser State)
    (other : Browser State') : Prop where
  find : ∀ path, Action.Alike matching (browser.find path) (other.find path)
  findAll : ∀ path, Action.Alike matching (browser.findAll path) (other.findAll path)
  click : ∀ handle, Action.Alike matching (browser.click handle) (other.click handle)
  sendKeys : ∀ handle keys,
    Action.Alike matching (browser.sendKeys handle keys) (other.sendKeys handle keys)
  clear : ∀ handle, Action.Alike matching (browser.clear handle) (other.clear handle)
  attribute? : ∀ handle name,
    Action.Alike matching (browser.attribute? handle name) (other.attribute? handle name)
  rect : ∀ handle, Action.Alike matching (browser.rect handle) (other.rect handle)
  isDisplayed : ∀ handle,
    Action.Alike matching (browser.isDisplayed handle) (other.isDisplayed handle)
  scrollBy : ∀ handle dx dy,
    Action.Alike matching (browser.scrollBy handle dx dy) (other.scrollBy handle dx dy)
  scrollTo : ∀ handle x y,
    Action.Alike matching (browser.scrollTo handle x y) (other.scrollTo handle x y)
  scrollOffset : ∀ handle,
    Action.Alike matching (browser.scrollOffset handle) (other.scrollOffset handle)

section Interactions

variable {matching : State → State' → Prop} {browser : Browser State} {other : Browser State'}
  (alike : browser.Alike matching other)

include alike

theorem Browser.Alike.isPresent (path : Path) :
    Action.Alike matching (browser.isPresent path) (other.isPresent path) :=
  (alike.findAll path).bind fun found => .pure (!found.isEmpty)

theorem Browser.Alike.locate (target : Target) :
    Action.Alike matching (browser.locate target) (other.locate target) := by
  cases target with
  | handle handle => exact .pure handle
  | path path => exact alike.find path

theorem Browser.Alike.clickOn (target : Target) :
    Action.Alike matching (browser.clickOn target) (other.clickOn target) := by
  apply (alike.locate target).bind
  intro handle
  exact (alike.click handle).bind fun _ => .pure handle

theorem Browser.Alike.liesInList (list candidate : Handle) :
    Action.Alike matching (browser.liesInList list candidate) (other.liesInList list candidate) := by
  apply (alike.rect list).bind
  intro bounds
  apply (alike.isDisplayed candidate).bind
  intro displayed
  cases displayed with
  | true => exact (alike.rect candidate).bind fun box => .pure _
  | false => exact .pure false

namespace Scroller

theorem ofTarget_alike (target : Target) :
    Action.Alike matching (ofTarget browser target) (ofTarget other target) := by
  apply (alike.locate target).bind
  intro container
  exact .pure _

theorem place_alike (scroller : Scroller) (direction : Direction) :
    Action.Alike matching (scroller.place browser direction) (scroller.place other direction) :=
  (alike.scrollOffset scroller.container).bind fun offset => .pure (direction.place offset)

theorem step_alike (scroller : Scroller) (direction : Direction) :
    Action.Alike matching (scroller.step browser direction) (scroller.step other direction) := by
  cases direction with
  | down => exact alike.scrollBy _ _ _
  | right => exact alike.scrollBy _ _ _

omit alike in
theorem firstAccepted_alike {accept : Handle → Action State Bool} {accept' : Handle → Action State' Bool}
    (accepts : ∀ candidate, Action.Alike matching (accept candidate) (accept' candidate))
    (candidates : List Handle) :
    Action.Alike matching (firstAccepted accept candidates) (firstAccepted accept' candidates) := by
  induction candidates with
  | nil => exact .pure none
  | cons candidate others ih =>
      apply (accepts candidate).bind
      intro accepted
      cases accepted with
      | true => exact .pure (some candidate)
      | false => exact ih

variable {accept : Handle → Action State Bool} {accept' : Handle → Action State' Bool}
  (accepts : ∀ candidate, Action.Alike matching (accept candidate) (accept' candidate))

include accepts

theorem probe_alike (path : Path) :
    Action.Alike matching (probe browser path accept) (probe other path accept') :=
  (alike.findAll path).bind fun candidates => firstAccepted_alike accepts candidates

omit alike accepts in
/-- A search goes alike where its probes, its looks at the offset and its steps do. -/
theorem searchFrom_alike_of {scroller : Scroller} {direction : Direction} {path : Path}
    (probes : Action.Alike matching (probe browser path accept) (probe other path accept'))
    (places : Action.Alike matching (scroller.place browser direction) (scroller.place other direction))
    (steps : Action.Alike matching (scroller.step browser direction) (scroller.step other direction))
    (limit stalls taken : Nat) :
    Action.Alike matching (scroller.searchFrom browser direction path accept limit stalls taken)
      (scroller.searchFrom other direction path accept' limit stalls taken) := by
  induction limit generalizing stalls taken with
  | zero => exact .throw _
  | succ limit ih =>
      apply probes.bind
      intro found
      cases found with
      | some found => exact .pure found
      | none =>
          by_cases ended : scroller.settings.maxStalls ≤ stalls
          · simp only [ended, if_true]
            exact .throw _
          · simp only [ended, if_false]
            apply places.bind
            intro before
            apply steps.bind
            intro _
            apply places.bind
            intro after
            exact ih _ _

theorem untilAccepted_alike (scroller : Scroller) (direction : Direction) (path : Path) :
    Action.Alike matching (scroller.untilAccepted browser direction path accept)
      (scroller.untilAccepted other direction path accept') :=
  searchFrom_alike_of (probe_alike alike accepts path) (place_alike alike scroller direction)
    (step_alike alike scroller direction) stepLimit 0 0

omit accepts in
theorem untilPresent_alike (scroller : Scroller) (direction : Direction) (path : Path) :
    Action.Alike matching (scroller.untilPresent browser direction path)
      (scroller.untilPresent other direction path) :=
  untilAccepted_alike alike (fun _ => .pure true) scroller direction path

end Scroller

end Interactions

end Locator
