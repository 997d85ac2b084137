import Locator.Interaction.Clear
import Locator.Proofs.Browser.Conclusions
import Locator.Proofs.Page.Operations

/-!
# What clearing an input ends with

Clearing looks at the value before it says how it went. What it says therefore holds whatever the browser
answers: strict clearing succeeds right after it has read an empty value, and gives up by itself right after it
has read one that is not. To see the calls, it is run in a browser that writes down how each of them went.
-/

namespace Locator

set_option autoImplicit false

variable {State Value : Type}

/-- How a call to a browser went. -/
inductive Event where
  /-- The value of an input was read; an input without one is empty. -/
  | read (value : String)
  | cleared
  | typed (keys : String)
  /-- The call succeeded and was none of these. -/
  | other
  | failed (error : Error)
  deriving DecidableEq

/-- No call failed. -/
def Event.AllWell (events : List Event) : Prop :=
  ∀ error, Event.failed error ∉ events

theorem Event.AllWell.concat {events : List Event} {event : Event} (well : AllWell events)
    (ended : ∀ error, event ≠ .failed error) : AllWell (events ++ [event]) := by
  intro error mem
  rcases List.mem_append.mp mem with earlier | last
  · exact well error earlier
  · exact ended error (List.mem_singleton.mp last).symm

/-- The same action beside a list of events, to which it adds how it went. -/
def Action.traced (event : Value → Event) (action : Action State Value) :
    Action (State × List Event) Value :=
  fun whole =>
    match action.outcome whole.1 with
    | (.ok value, state) => (.ok value, state, whole.2 ++ [event value])
    | (.error error, state) => (.error error, state, whole.2 ++ [.failed error])

section Traced

variable {action : Action State Value} {event : Value → Event} {state after : State} {events : List Event}

theorem outcome_traced :
    (action.traced event).outcome (state, events) =
      match action.outcome state with
      | (.ok value, after) => (.ok value, after, events ++ [event value])
      | (.error error, after) => (.error error, after, events ++ [.failed error]) :=
  rfl

theorem outcome_traced_of_ok {value : Value} (ended : action.outcome state = (.ok value, after)) :
    (action.traced event).outcome (state, events) = (.ok value, after, events ++ [event value]) := by
  rw [outcome_traced, ended]

theorem outcome_traced_of_error {error : Error} (ended : action.outcome state = (.error error, after)) :
    (action.traced event).outcome (state, events) = (.error error, after, events ++ [.failed error]) := by
  rw [outcome_traced, ended]

end Traced

namespace Browser

/-- The same browser with a list of how its calls went. -/
def traced (browser : Browser State) : Browser (State × List Event) where
  find path := (browser.find path).traced fun _ => .other
  findAll path := (browser.findAll path).traced fun _ => .other
  click handle := (browser.click handle).traced fun _ => .other
  sendKeys handle keys := (browser.sendKeys handle keys).traced fun _ => .typed keys
  clear handle := (browser.clear handle).traced fun _ => .cleared
  attribute? handle name :=
    (browser.attribute? handle name).traced fun value =>
      if name = "value" then .read (value.getD "") else .other
  rect handle := (browser.rect handle).traced fun _ => .other
  isDisplayed handle := (browser.isDisplayed handle).traced fun _ => .other
  scrollBy handle dx dy := (browser.scrollBy handle dx dy).traced fun _ => .other
  scrollTo handle x y := (browser.scrollTo handle x y).traced fun _ => .other
  scrollOffset handle := (browser.scrollOffset handle).traced fun _ => .other
  setImplicitTimeout milliseconds := (browser.setImplicitTimeout milliseconds).traced fun _ => .other
  implicitTimeout whole := browser.implicitTimeout whole.1

end Browser

/-! ## Clearing follows the browser -/

section Alike

variable {State' : Type} {matching : State → State' → Prop} {browser : Browser State}
  {other : Browser State'}

theorem Browser.traced_alike (browser : Browser State) :
    browser.Alike (fun state whole => whole.1 = state) browser.traced := by
  have part {Value : Type} (action : Action State Value) (event : Value → Event) :
      Action.Alike (fun state (whole : State × List Event) => whole.1 = state) action
        (action.traced event) := by
    rintro state whole rfl
    cases ended : action.outcome whole.1 with
    | mk result after =>
        cases result with
        | ok value => exact outcome_traced_of_ok ended ▸ ⟨rfl, rfl⟩
        | error error => exact outcome_traced_of_error ended ▸ ⟨rfl, rfl⟩
  constructor <;> intros <;> exact part _ _

/-- From matching states, a field of one browser and a field of the other are located, read, cleared and typed into
alike. -/
structure Browser.FieldsAlike (matching : State → State' → Prop) (browser : Browser State) (field : Target)
    (other : Browser State') (field' : Target) : Prop where
  locate : Action.Alike matching (browser.locate field) (other.locate field')
  value : ∀ handle, Action.Alike matching (browser.attribute? handle "value") (other.attribute? handle "value")
  sendKeys : ∀ handle keys, Action.Alike matching (browser.sendKeys handle keys) (other.sendKeys handle keys)
  clear : ∀ handle, Action.Alike matching (browser.clear handle) (other.clear handle)

theorem Browser.Alike.fields (alike : browser.Alike matching other) (field : Target) :
    browser.FieldsAlike matching field other field where
  locate := alike.locate field
  value handle := alike.attribute? handle "value"
  sendKeys := alike.sendKeys
  clear := alike.clear

namespace Browser.FieldsAlike

variable {field field' : Target} (alike : browser.FieldsAlike matching field other field')

include alike

theorem valueOf : Action.Alike matching (browser.valueOf field) (other.valueOf field') := by
  apply alike.locate.bind
  intro handle
  exact (alike.value handle).bind fun value => .pure (value.getD "")

theorem sendKeysTo (keys : String) :
    Action.Alike matching (browser.sendKeysTo keys field) (other.sendKeysTo keys field') := by
  apply alike.locate.bind
  intro handle
  exact (alike.sendKeys handle keys).bind fun _ => .pure handle

theorem repeatKey (key : Char) (count : Nat) :
    Action.Alike matching (browser.repeatKey field key count) (other.repeatKey field' key count) := by
  induction count with
  | zero => exact .pure ()
  | succ count ih => exact (alike.sendKeysTo _).bind fun _ => ih

theorem clearByKey (mode : ClearMode) (left : Nat) (previous : Option Nat) :
    Action.Alike matching (browser.clearByKey field mode left previous)
      (other.clearByKey field' mode left previous) := by
  induction left generalizing previous with
  | zero =>
      cases mode with
      | lenient => exact .pure ()
      | strict =>
          apply alike.valueOf.bind
          intro value
          cases value.isEmpty with
          | true => exact .pure ()
          | false => exact .throw clearFailed
  | succ left ih =>
      unfold Browser.clearByKey
      apply (alike.valueOf.bind fun value => .pure value.toList.length).bind
      intro length
      by_cases empty : length = 0
      · simp only [empty, if_true]
        exact .pure ()
      · simp only [empty, if_false]
        split
        case isTrue => exact .throw clearFailed
        case isFalse =>
          apply (alike.repeatKey Key.backspace length).bind
          intro _
          apply (alike.repeatKey Key.delete length).bind
          intro _
          exact ih (some length)

theorem clearInput (mode : ClearMode) (settings : ClearSettings) :
    Action.Alike matching (browser.clearInput field mode settings)
      (other.clearInput field' mode settings) := by
  apply alike.valueOf.bind
  intro initial
  cases initial.isEmpty with
  | true => exact .pure ()
  | false =>
      apply alike.locate.bind
      intro element
      apply (alike.clear element).bind
      intro _
      apply alike.valueOf.bind
      intro value
      cases value.isEmpty with
      | true => exact .pure ()
      | false =>
          apply (alike.sendKeysTo _).bind
          intro _
          apply alike.valueOf.bind
          intro left
          cases left.isEmpty with
          | true => exact .pure ()
          | false => exact alike.clearByKey mode _ none

end Browser.FieldsAlike

theorem Browser.Alike.clearInput (alike : browser.Alike matching other) (field : Target) (mode : ClearMode)
    (settings : ClearSettings) :
    Action.Alike matching (browser.clearInput field mode settings)
      (other.clearInput field mode settings) :=
  (alike.fields field).clearInput mode settings

end Alike

/-! ## What clearing concludes -/

/-- What can be seen of a browser while it clears a field: `well` as long as no call has failed, `readAs` right
after the field has been read, and `bad` after a failure. -/
structure Observes (browser : Browser State) (field : Target) (well : State → Prop)
    (readAs : String → State → Prop) (bad : Error → State → Prop) : Prop where
  reads : Action.Concludes well (browser.valueOf field) readAs bad
  stays : ∀ value state, readAs value state → well state
  locates : Action.Concludes well (browser.locate field) (fun _ => well) bad
  clears : ∀ handle, Action.Concludes well (browser.clear handle) (fun _ => well) bad
  types : ∀ keys, Action.Concludes well (browser.sendKeysTo keys field) (fun _ => well) bad

section Observes

variable {browser : Browser State} {field : Target} {well : State → Prop}
  {readAs : String → State → Prop} {bad : Error → State → Prop}

/-- Clearing is over with success. Only lenient clearing may be so without having read an empty value last. -/
def Emptied (mode : ClearMode) (well : State → Prop) (readAs : String → State → Prop) (state : State) : Prop :=
  well state ∧ (mode = .strict → readAs "" state)

/-- Clearing is over with an error: one of the browser, or its own when it is strict and has read something. -/
def GaveUp (mode : ClearMode) (readAs : String → State → Prop) (bad : Error → State → Prop) (error : Error)
    (state : State) : Prop :=
  bad error state ∨ error = clearFailed ∧ mode = .strict ∧ ∃ value, value ≠ "" ∧ readAs value state

variable (observes : Observes browser field well readAs bad)

include observes

theorem Observes.emptied (mode : ClearMode) {state : State} (read : readAs "" state) :
    Emptied mode well readAs state :=
  ⟨observes.stays _ _ read, fun _ => read⟩

theorem repeatKey_concludes (key : Char) (count : Nat) :
    Action.Concludes well (browser.repeatKey field key count) (fun _ => well) bad := by
  induction count with
  | zero => exact .pure fun _ start => start
  | succ count ih => exact (observes.types _).bind fun _ => ih

theorem valueLength_concludes :
    Action.Concludes well (browser.valueLength field)
      (fun length state => ∃ value, length = value.toList.length ∧ readAs value state) bad :=
  observes.reads.bind fun value => .pure fun _ read => ⟨value, rfl, read⟩

theorem clearByKey_concludes (mode : ClearMode) (left : Nat) (previous : Option Nat) :
    Action.Concludes well (browser.clearByKey field mode left previous)
      (fun _ => Emptied mode well readAs) (GaveUp mode readAs bad) := by
  have theirs : ∀ error state, bad error state → GaveUp mode readAs bad error state := fun _ _ => .inl
  induction left generalizing previous with
  | zero =>
      cases mode with
      | lenient => exact .pure fun _ start => ⟨start, nofun⟩
      | strict =>
          apply (observes.reads.weaken (fun _ _ read => read) theirs).bind
          intro value
          cases empty : value.isEmpty with
          | true =>
              have blank : value = "" := String.isEmpty_iff.mp empty
              exact .pure fun _ read => observes.emptied .strict (blank ▸ read)
          | false =>
              have present : value ≠ "" := fun blank => by simp [blank] at empty
              exact .throw fun _ read => .inr ⟨rfl, rfl, value, present, read⟩
  | succ left ih =>
      unfold Browser.clearByKey
      apply ((valueLength_concludes observes).weaken (fun _ _ read => read) theirs).bind
      intro length
      by_cases empty : length = 0
      · simp only [empty, if_true]
        apply Action.Concludes.pure
        rintro state ⟨value, none, read⟩
        have blank : value = "" := by simpa using none.symm
        exact observes.emptied mode (blank ▸ read)
      · simp only [empty, if_false]
        split
        case isTrue strict =>
          apply Action.Concludes.throw
          rintro state ⟨value, counted, read⟩
          have present : value ≠ "" := by
            rintro rfl
            exact empty counted
          exact .inr ⟨rfl, strict.1, value, present, read⟩
        case isFalse =>
          have pressed (key : Char) := (repeatKey_concludes observes key length).weaken (fun _ _ start => start) theirs
          have started : ∀ state, (∃ value, length = value.toList.length ∧ readAs value state) → well state := by
            rintro state ⟨value, -, read⟩
            exact observes.stays value state read
          apply ((pressed Key.backspace).strengthen started).bind
          intro _
          apply (pressed Key.delete).bind
          intro _
          exact ih (some length)

/-- Clearing a field says what it has read last. -/
theorem clearInput_concludes (mode : ClearMode) (settings : ClearSettings) :
    Action.Concludes well (browser.clearInput field mode settings) (fun _ => Emptied mode well readAs)
      (GaveUp mode readAs bad) := by
  have theirs : ∀ error state, bad error state → GaveUp mode readAs bad error state := fun _ _ => .inl
  have reads := observes.reads.weaken (fun _ _ read => read) theirs
  -- Each of the three tiers reads the value and is over when it is empty.
  have tier {next : String → Action State Unit}
      (later : ∀ value, Action.Concludes well (next value) (fun _ => Emptied mode well readAs)
        (GaveUp mode readAs bad)) :
      Action.Concludes well
        (do
          let value ← browser.valueOf field
          if value.isEmpty then return ()
          next value)
        (fun _ => Emptied mode well readAs) (GaveUp mode readAs bad) := by
    apply reads.bind
    intro value
    cases empty : value.isEmpty with
    | true =>
        have blank : value = "" := String.isEmpty_iff.mp empty
        exact .pure fun _ read => observes.emptied mode (blank ▸ read)
    | false => exact (later value).strengthen fun state read => observes.stays value state read
  apply tier
  intro _
  apply (observes.locates.weaken (fun _ _ start => start) theirs).bind
  intro element
  apply ((observes.clears element).weaken (fun _ _ start => start) theirs).bind
  intro _
  apply tier
  intro value
  apply ((observes.types _).weaken (fun _ _ start => start) theirs).bind
  intro _
  apply tier
  intro _
  exact clearByKey_concludes observes mode _ none

end Observes

/-! ## What was seen last -/

/-- The calls went well but for the last one, which went so. -/
def EndsWith (event : Event) (whole : State × List Event) : Prop :=
  ∃ earlier, Event.AllWell earlier ∧ whole.2 = earlier ++ [event]

theorem EndsWith.allWell {event : Event} {whole : State × List Event} (ends : EndsWith event whole)
    (succeeded : ∀ error, event ≠ .failed error) : Event.AllWell whole.2 := by
  obtain ⟨earlier, well, equal⟩ := ends
  rw [equal]
  exact well.concat succeeded

theorem traced_concludes (action : Action State Value) (event : Value → Event) :
    Action.Concludes (fun whole => Event.AllWell whole.2) (action.traced event)
      (fun value => EndsWith (event value)) fun error => EndsWith (.failed error) := by
  rintro ⟨state, events⟩ well
  cases ended : action.outcome state with
  | mk result after =>
      cases result with
      | ok value =>
          rw [outcome_traced_of_ok ended]
          exact ⟨events, well, rfl⟩
      | error error =>
          rw [outcome_traced_of_error ended]
          exact ⟨events, well, rfl⟩

theorem traced_succeeds (action : Action State Value) (event : Value → Event)
    (succeeded : ∀ value error, event value ≠ .failed error) :
    Action.Concludes (fun whole => Event.AllWell whole.2) (action.traced event)
      (fun _ whole => Event.AllWell whole.2) fun error => EndsWith (.failed error) :=
  (traced_concludes action event).weaken (fun value _ ends => ends.allWell (succeeded value)) fun _ _ ends => ends

theorem traced_observes (browser : Browser State) (field : Target) :
    Observes browser.traced field (fun whole => Event.AllWell whole.2) (fun value => EndsWith (.read value))
      fun error => EndsWith (.failed error) := by
  have locates : Action.Concludes (fun whole => Event.AllWell whole.2) (browser.traced.locate field)
      (fun _ whole => Event.AllWell whole.2) fun error => EndsWith (.failed error) := by
    cases field with
    | handle handle => exact .pure fun _ well => well
    | path path => exact traced_succeeds _ _ nofun
  constructor
  case reads =>
    apply locates.bind
    intro handle
    apply (traced_concludes (browser.attribute? handle "value") _).bind
    intro value
    exact .pure fun _ ends => ends
  case stays => exact fun value whole ends => ends.allWell nofun
  case locates => exact locates
  case clears => exact fun handle => traced_succeeds _ _ nofun
  case types =>
    intro keys
    apply locates.bind
    intro handle
    apply (traced_succeeds (browser.sendKeys handle keys) (fun _ => .typed keys) nofun).bind
    intro _
    exact .pure fun _ well => well

/-! ## Clearing on a page -/

namespace Page

/-- The element that a target stands for. -/
def located (page : Page) : Target → Except Error Handle
  | .handle handle => .ok handle
  | .path path =>
      match page.resolve path.toXPath with
      | [] => .error ⟨.notFound, path.toXPath⟩
      | first :: _ => .ok first

/-- The value of the input that a target stands for. -/
def valueAt (page : Page) (field : Target) : Except Error String := do
  let handle ← page.located field
  let element ← page.element? handle
  return element.value

theorem valueAt_log (page : Page) (log : List Call) (field : Target) :
    { page with log }.valueAt field = page.valueAt field := by
  cases field <;> rfl

theorem outcome_locate (page : Page) (field : Target) :
    ∃ log, (browser.locate field).outcome page = (page.located field, { page with log }) := by
  cases field with
  | handle handle => exact ⟨page.log, rfl⟩
  | path path =>
      refine ⟨.find path.toXPath :: page.log, ?_⟩
      show (browser.find path).outcome page = _
      cases found : page.resolve path.toXPath with
      | nil =>
          simp only [located, found]
          exact outcome_find_of_nil found
      | cons first others =>
          simp only [located, found]
          exact outcome_find_of_cons found

theorem outcome_attribute_value (page : Page) (handle : Handle) :
    (browser.attribute? handle "value").outcome page =
      ((page.element? handle).map fun element => some element.value, page) :=
  outcome_onElement_map page handle _

/-- Reading a field changes nothing but the log. -/
theorem outcome_valueOf (page : Page) (field : Target) :
    ∃ log, (browser.valueOf field).outcome page = (page.valueAt field, { page with log }) := by
  obtain ⟨log, locates⟩ := outcome_locate page field
  refine ⟨log, ?_⟩
  unfold Browser.valueOf valueAt
  cases found : page.located field with
  | error error =>
      rw [found] at locates
      rw [Action.outcome_bind_of_error locates]
      rfl
  | ok handle =>
      rw [found] at locates
      rw [Action.outcome_bind_of_ok locates]
      have reads := outcome_attribute_value { page with log } handle
      have same : { page with log }.element? handle = page.element? handle := rfl
      rw [same] at reads
      cases live : page.element? handle with
      | error error =>
          rw [live] at reads
          rw [Action.outcome_bind_of_error reads]
          show _ = ((page.element? handle >>= fun element => pure element.value), _)
          rw [live]
          rfl
      | ok element =>
          rw [live] at reads
          rw [Action.outcome_bind_of_ok reads]
          show _ = ((page.element? handle >>= fun element => pure element.value), _)
          rw [live]
          rfl

theorem browser_observes (field : Target) :
    Observes browser field (fun _ => True) (fun value page => page.valueAt field = .ok value)
      fun _ _ => True := by
  have ends {Value : Type} (action : Action Page Value) :
      Action.Concludes (fun _ => True) action (fun _ _ => True) fun _ _ => True := by
    intro page _
    split <;> trivial
  constructor
  case reads =>
    intro page _
    obtain ⟨log, reads⟩ := outcome_valueOf page field
    rw [reads]
    cases value : page.valueAt field with
    | ok value => exact (valueAt_log page log field).trans value
    | error error => trivial
  case stays => exact fun _ _ _ => trivial
  case locates => exact ends _
  case clears => exact fun handle => ends _
  case types => exact fun keys => ends _

end Page

/-- Clearing is seen here in a list of how the calls went, and goes as it does without one. Whatever the browser
answers: when strict clearing succeeds, the last call has read an empty value. An error is the one that
the last call failed with, or else no call has failed, clearing is strict and the last call has read a value
that is not empty; lenient clearing has no error of its own. On a page a value that has been read is there
still, so strict clearing that succeeds has emptied the field. -/
theorem clearInput_says_what_was_read (field : Target) (mode : ClearMode) (settings : ClearSettings) :
    (∀ (State : Type) (browser : Browser State) (state : State), ∃ events,
      let plain := (browser.clearInput field mode settings).outcome state
      (browser.traced.clearInput field mode settings).outcome (state, []) = (plain.1, plain.2, events) ∧
      (mode = .strict → plain.1 = .ok () → ∃ earlier, events = earlier ++ [.read ""]) ∧
      (∀ error, plain.1 = .error error →
        (∃ earlier, Event.AllWell earlier ∧ events = earlier ++ [.failed error]) ∨
        (Event.AllWell events ∧ error = clearFailed ∧ mode = .strict ∧
          ∃ earlier value, value ≠ "" ∧ events = earlier ++ [.read value])) ∧
      (mode = .lenient → ∀ error, plain.1 = .error error → .failed error ∈ events)) ∧
    ∀ page after, mode = .strict →
      (Page.browser.clearInput field mode settings).outcome page = (.ok (), after) →
      ((Page.browser.valueOf field).outcome after).1 = .ok "" := by
  constructor
  · intro State browser state
    obtain ⟨result, same⟩ := browser.traced_alike.clearInput field mode settings state (state, []) rfl
    have concludes := clearInput_concludes (traced_observes browser field) mode settings (state, []) nofun
    cases traced : (browser.traced.clearInput field mode settings).outcome (state, []) with
    | mk ending whole =>
        obtain ⟨after, events⟩ := whole
        rw [traced] at result same concludes
        refine ⟨events, Prod.ext result.symm (Prod.ext same rfl), ?_⟩
        rw [result]
        cases ending with
        | ok _ =>
            refine ⟨fun strict _ => ?_, nofun, nofun⟩
            obtain ⟨earlier, _, equal⟩ := concludes.2 strict
            exact ⟨earlier, equal⟩
        | error error =>
            rcases concludes with ⟨earlier, well, equal⟩ | ⟨own, strict, value, present, read⟩
            · refine ⟨nofun, ?_, ?_⟩
              · rintro _ ⟨⟩
                exact .inl ⟨earlier, well, equal⟩
              · rintro _ _ ⟨⟩
                rw [show events = _ from equal]
                exact List.mem_concat_self
            · refine ⟨nofun, ?_, ?_⟩
              · rintro _ ⟨⟩
                obtain ⟨earlier, _, equal⟩ := id read
                exact .inr ⟨read.allWell nofun, own, strict, earlier, value, present, equal⟩
              · intro lenient
                rw [lenient] at strict
                cases strict
  · intro page after strict cleared
    have concludes := clearInput_concludes (Page.browser_observes field) mode settings page trivial
    rw [cleared] at concludes
    obtain ⟨log, reads⟩ := Page.outcome_valueOf after field
    rw [reads]
    exact concludes.2 strict

/-- A page with one input, which takes no notice of being cleared. -/
def Page.stubborn (keys : KeyResponse) : Page :=
  let empty : Page := {}
  empty.add ⟨"input"⟩ { tag := "input", value := "ab", keys, clears := false }

set_option maxRecDepth 2000 in
theorem clearInput_says_what_was_read_stubborn :
    (∃ after, (Page.browser.clearInput (.handle ⟨"input"⟩) .strict {}).outcome (Page.stubborn .editable) =
        (.ok (), after) ∧
      ((Page.browser.valueOf (.handle ⟨"input"⟩)).outcome after).1 = .ok "") ∧
    ∃ earlier value, value ≠ "" ∧
      ((Page.browser.traced.clearInput (.handle ⟨"input"⟩) .strict {}).outcome (Page.stubborn .frozen, [])).2.2 =
        earlier ++ [.read value] := by
  constructor
  · refine ⟨_, by rfl, ?_⟩
    exact (clearInput_says_what_was_read (.handle ⟨"input"⟩) .strict {}).2 (.stubborn .editable) _ rfl (by rfl)
  · obtain ⟨events, traced, _, refused, _⟩ :=
      (clearInput_says_what_was_read (.handle ⟨"input"⟩) .strict {}).1 Page Page.browser (.stubborn .frozen)
    have seen := congrArg (fun whole => whole.2.2) traced
    have well : Event.failed clearFailed ∉
        ((Page.browser.traced.clearInput (.handle ⟨"input"⟩) .strict {}).outcome (Page.stubborn .frozen, [])).2.2 := by
      decide +kernel
    rw [seen] at well ⊢
    rcases refused clearFailed (by rfl) with ⟨earlier, _, failed⟩ | ⟨_, _, _, earlier, value, present, read⟩
    · rw [failed] at well
      exact absurd List.mem_concat_self well
    · exact ⟨earlier, value, present, read⟩

end Locator
