import Locator.Proofs.Browser.Alike

/-!
# Journals

Which calls an action makes, in which order and with which answers, shows when it runs in a browser that keeps
a journal. The journal only grows, so what an action adds to it can be said for one action after the other.
-/

namespace Locator

set_option autoImplicit false

variable {State Value Result Note : Type}

/-- A call to a browser, with its answer. -/
inductive Entry where
  | find (path : Path) (answer : Except Error Handle)
  | findAll (path : Path) (answer : Except Error (List Handle))
  | click (handle : Handle) (answer : Except Error Unit)
  | sendKeys (handle : Handle) (keys : String) (answer : Except Error Unit)
  | clear (handle : Handle) (answer : Except Error Unit)
  | attribute? (handle : Handle) (name : String) (answer : Except Error (Option String))
  | rect (handle : Handle) (answer : Except Error Rect)
  | isDisplayed (handle : Handle) (answer : Except Error Bool)
  | scrollBy (handle : Handle) (dx dy : Int) (answer : Except Error Unit)
  | scrollTo (handle : Handle) (x y : Option Int) (answer : Except Error Unit)
  | scrollOffset (handle : Handle) (answer : Except Error Offset)
  | setImplicitTimeout (milliseconds : Nat) (answer : Except Error Unit)

/-- The call was answered, not with an error. -/
def Entry.succeeded : Entry → Bool
  | .find _ answer | .findAll _ answer | .click _ answer | .sendKeys _ _ answer | .clear _ answer
  | .attribute? _ _ answer | .rect _ answer | .isDisplayed _ answer | .scrollBy _ _ _ answer
  | .scrollTo _ _ _ answer | .scrollOffset _ answer | .setImplicitTimeout _ answer => answer.isOk

/-- The same action beside a journal, in which its answer is noted. -/
def Action.noting (note : Except Error Value → Note) (action : Action State Value) :
    Action (State × List Note) Value :=
  fun whole =>
    let (answer, state) := action.outcome whole.1
    (answer, state, whole.2 ++ [note answer])

/-- The same browser beside a journal, in which every call is noted. -/
def Browser.noting (note : Entry → Note) (browser : Browser State) : Browser (State × List Note) where
  find path := (browser.find path).noting fun answer => note (.find path answer)
  findAll path := (browser.findAll path).noting fun answer => note (.findAll path answer)
  click handle := (browser.click handle).noting fun answer => note (.click handle answer)
  sendKeys handle keys := (browser.sendKeys handle keys).noting fun answer => note (.sendKeys handle keys answer)
  clear handle := (browser.clear handle).noting fun answer => note (.clear handle answer)
  attribute? handle name :=
    (browser.attribute? handle name).noting fun answer => note (.attribute? handle name answer)
  rect handle := (browser.rect handle).noting fun answer => note (.rect handle answer)
  isDisplayed handle := (browser.isDisplayed handle).noting fun answer => note (.isDisplayed handle answer)
  scrollBy handle dx dy := (browser.scrollBy handle dx dy).noting fun answer => note (.scrollBy handle dx dy answer)
  scrollTo handle x y := (browser.scrollTo handle x y).noting fun answer => note (.scrollTo handle x y answer)
  scrollOffset handle := (browser.scrollOffset handle).noting fun answer => note (.scrollOffset handle answer)
  setImplicitTimeout milliseconds :=
    (browser.setImplicitTimeout milliseconds).noting fun answer => note (.setImplicitTimeout milliseconds answer)
  implicitTimeout whole := browser.implicitTimeout whole.1

theorem Action.noting_alike (note : Except Error Value → Note) (action : Action State Value) :
    Alike (fun state (whole : State × List Note) => whole.1 = state) action (action.noting note) := by
  rintro state whole rfl
  exact ⟨rfl, rfl⟩

/-- A journal does not show in the answers. -/
theorem Browser.noting_alike (note : Entry → Note) (browser : Browser State) :
    browser.Alike (fun state whole => whole.1 = state) (browser.noting note) := by
  constructor <;> intros <;> exact Action.noting_alike _ _

namespace Action

/-- Whatever the session and whatever has been noted so far, `ends` says of the answer what the action adds to
the journal. -/
def Notes (action : Action (State × List Note) Value) (ends : Except Error Value → List Note → Prop) : Prop :=
  ∀ state earlier, ∃ notes,
    (action.outcome (state, earlier)).2.2 = earlier ++ notes ∧ ends (action.outcome (state, earlier)).1 notes

variable {action : Action (State × List Note) Value} {ends : Except Error Value → List Note → Prop}

theorem Notes.pure {value : Value} (holds : ends (.ok value) []) :
    Notes (pure value : Action (State × List Note) Value) ends :=
  fun _ earlier => ⟨[], (List.append_nil earlier).symm, holds⟩

theorem Notes.throw {error : Error} (holds : ends (.error error) []) :
    Notes (throw error : Action (State × List Note) Value) ends :=
  fun _ earlier => ⟨[], (List.append_nil earlier).symm, holds⟩

theorem Notes.of_noting (note : Except Error Value → Note) (action : Action State Value) :
    Notes (action.noting note) fun answer notes => notes = [note answer] :=
  fun _ _ => ⟨_, rfl, rfl⟩

theorem Notes.weaken {ends' : Except Error Value → List Note → Prop} (notes : Notes action ends)
    (holds : ∀ answer added, ends answer added → ends' answer added) : Notes action ends' := by
  intro state earlier
  obtain ⟨added, grown, ended⟩ := notes state earlier
  exact ⟨added, grown, holds _ added ended⟩

theorem Notes.bind {next : Value → Action (State × List Note) Result}
    {last : Except Error Result → List Note → Prop} (first : Notes action ends)
    (failed : ∀ error added, ends (.error error) added → last (.error error) added)
    (later : ∀ value added, ends (.ok value) added →
      Notes (next value) fun answer rest => last answer (added ++ rest)) :
    Notes (action >>= next) last := by
  intro state earlier
  obtain ⟨added, grown, ended⟩ := first state earlier
  cases outcome : action.outcome (state, earlier) with
  | mk answer whole =>
      rw [outcome] at grown ended
      obtain ⟨after, journal⟩ := whole
      simp only at grown ended
      subst grown
      cases answer with
      | error error =>
          rw [outcome_bind_of_error outcome]
          exact ⟨added, rfl, failed error added ended⟩
      | ok value =>
          rw [outcome_bind_of_ok outcome]
          obtain ⟨rest, grownMore, endedThen⟩ := later value added ended after (earlier ++ added)
          exact ⟨added ++ rest, grownMore.trans (List.append_assoc _ _ _), endedThen⟩

/-- An action that goes as another one does without the journal ends as that one, and notes what it notes. -/
theorem Notes.outcome_eq {plain : Action State Value} (notes : Notes action ends)
    (alike : Alike (fun state (whole : State × List Note) => whole.1 = state) plain action) (state : State)
    (earlier : List Note) :
    ∃ added,
      action.outcome (state, earlier) = ((plain.outcome state).1, (plain.outcome state).2, earlier ++ added) ∧
      ends (plain.outcome state).1 added := by
  obtain ⟨answer, same⟩ := alike state (state, earlier) rfl
  obtain ⟨added, grown, ended⟩ := notes state earlier
  refine ⟨added, Prod.ext answer.symm (Prod.ext same grown), ?_⟩
  rw [answer]
  exact ended

end Action

end Locator
