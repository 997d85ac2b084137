import Locator.Proofs.Browser.Alike

/-!
# The implicit timeout is put back

An interaction that lowers the implicit timeout sets it once more when it ends. To see the calls, the
interaction is run in a browser that records them, and to see that a failure of the last one does not show,
in a browser that never reports such a failure. The three runs are followed side by side.
-/

namespace Locator

set_option autoImplicit false

variable {State Whole Recorded Value Result : Type}

/-- A call that sets the implicit timeout: the timeout before, the one asked for, and how the call ended. -/
structure TimeoutCall where
  before : Nat
  milliseconds : Nat
  ending : Except Error Unit

/-- The calls of an interaction with this result. It leaves the timeout alone, or fails to lower it and ends
with that error, or lowers it and in the end, whatever the result, sets the timeout that belongs there. -/
inductive PutBack (during : Nat) (restore : Nat → Nat) (result : Except Error Value) :
    List TimeoutCall → Prop where
  | untouched : PutBack during restore result []
  | refused (before : Nat) (error : Error) (failed : result = .error error) :
      PutBack during restore result [⟨before, during, .error error⟩]
  | restored (before later : Nat) (ending : Except Error Unit) :
      PutBack during restore result
        [⟨before, during, .ok ()⟩, ⟨later, restore before, ending⟩]

namespace Browser

/-- The same browser with a record of the calls that set the implicit timeout. -/
def recording (browser : Browser State) : Browser (State × List TimeoutCall) :=
  { browser.onPart Prod.fst fun state (whole : State × List TimeoutCall) => (state, whole.2) with
    setImplicitTimeout := fun milliseconds whole =>
      let (ending, state) := (browser.setImplicitTimeout milliseconds).outcome whole.1
      (ending, state, whole.2 ++ [⟨browser.implicitTimeout whole.1, milliseconds, ending⟩]) }

/-- The same browser without any sign of a failure to set the implicit timeout. -/
def unfailing (browser : Browser State) : Browser State :=
  { browser with
    setImplicitTimeout := fun milliseconds state =>
      (.ok (), ((browser.setImplicitTimeout milliseconds).outcome state).2) }

/-- True of browsers that can set the implicit timeout and do not change it otherwise. -/
structure Steady (browser : Browser State) : Prop where
  sets : ∀ milliseconds state,
    ((browser.setImplicitTimeout milliseconds).outcome state).1 = .ok () ∧
      browser.implicitTimeout ((browser.setImplicitTimeout milliseconds).outcome state).2 = milliseconds
  keeps : ∀ timeout, browser.Alike
    (fun state state' => state = state' ∧ browser.implicitTimeout state = timeout) browser

theorem recording_alike (browser : Browser State) (calls : List TimeoutCall) :
    browser.Alike (fun state whole => whole = (state, calls)) browser.recording := by
  have part {Value : Type} (action : Action State Value) :
      Action.Alike (fun state (whole : State × List TimeoutCall) => whole = (state, calls)) action
        (action.onPart Prod.fst fun state (whole : State × List TimeoutCall) => (state, whole.2)) := by
    intro state whole equal
    subst equal
    rw [Action.outcome_onPart]
    exact ⟨rfl, rfl⟩
  constructor <;> intros <;> exact part _

theorem unfailing_alike (browser : Browser State) : browser.Alike Eq browser.unfailing := by
  have same {Value : Type} (action : Action State Value) : Action.Alike Eq action action := by
    intro state state' equal
    subst equal
    exact ⟨rfl, rfl⟩
  constructor <;> intros <;> exact same _

section WithTimeout

variable {browser : Browser State} {during after : Nat} {body : Action State Value} {state lowered : State}

theorem withTimeout_of_refused {error : Error}
    (refused : (browser.setImplicitTimeout during).outcome state = (.error error, lowered)) :
    (browser.withTimeout during after body).outcome state = (.error error, lowered) :=
  Action.outcome_bind_of_error refused

theorem withTimeout_of_lowered
    (lowers : (browser.setImplicitTimeout during).outcome state = (.ok (), lowered)) :
    (browser.withTimeout during after body).outcome state =
      ((body.outcome lowered).1,
        ((browser.setImplicitTimeout after).outcome (body.outcome lowered).2).2) := by
  rw [withTimeout, Action.outcome_bind_of_ok lowers,
    Action.outcome_bind_of_ok (Action.outcome_attempt body lowered),
    Action.outcome_bind_of_ok (Action.outcome_attempt _ _), Action.outcome_ofExcept]

theorem outcome_withLoweredTimeout :
    (browser.withLoweredTimeout during body).outcome state =
      (browser.withTimeout during (browser.implicitTimeout state) body).outcome state := by
  rw [withLoweredTimeout, Action.outcome_bind_of_ok (Action.outcome_look _ _)]

end WithTimeout

end Browser

/-! ## Three runs side by side -/

/-- A browser, the same one with a record of the calls, and the same one without failures. `record` puts the
calls made so far into a state. -/
structure Runs (Whole Recorded : Type) where
  plain : Browser Whole
  recording : Browser Recorded
  unfailing : Browser Whole
  record : List TimeoutCall → Whole → Recorded
  steady : Prop
  records : ∀ calls milliseconds whole,
    (recording.setImplicitTimeout milliseconds).outcome (record calls whole) =
      (((plain.setImplicitTimeout milliseconds).outcome whole).1,
        record
          (calls ++ [⟨plain.implicitTimeout whole, milliseconds,
            ((plain.setImplicitTimeout milliseconds).outcome whole).1⟩])
          ((plain.setImplicitTimeout milliseconds).outcome whole).2)
  passes : ∀ milliseconds whole,
    (unfailing.setImplicitTimeout milliseconds).outcome whole =
      (.ok (), ((plain.setImplicitTimeout milliseconds).outcome whole).2)
  sets : steady → ∀ milliseconds whole,
    ((plain.setImplicitTimeout milliseconds).outcome whole).1 = .ok () ∧
      plain.implicitTimeout ((plain.setImplicitTimeout milliseconds).outcome whole).2 = milliseconds
  recordedTimeout : ∀ calls whole,
    recording.implicitTimeout (record calls whole) = plain.implicitTimeout whole
  unfailingTimeout : ∀ whole, unfailing.implicitTimeout whole = plain.implicitTimeout whole

def Browser.runs (browser : Browser State) : Runs State (State × List TimeoutCall) where
  plain := browser
  recording := browser.recording
  unfailing := browser.unfailing
  record calls state := (state, calls)
  steady := browser.Steady
  records _ _ _ := rfl
  passes _ _ := rfl
  sets steady := steady.sets
  recordedTimeout _ _ := rfl
  unfailingTimeout _ := rfl

/-- The three runs of an action that does not touch the implicit timeout. -/
structure Quiet (runs : Runs Whole Recorded) (plain : Action Whole Value)
    (recorded : Action Recorded Value) (unfailing : Action Whole Value) : Prop where
  recorded : ∀ calls whole,
    recorded.outcome (runs.record calls whole) =
      ((plain.outcome whole).1, runs.record calls (plain.outcome whole).2)
  unfailing : ∀ whole, unfailing.outcome whole = plain.outcome whole
  settled : runs.steady → ∀ whole,
    runs.plain.implicitTimeout (plain.outcome whole).2 = runs.plain.implicitTimeout whole

/-- The three runs of an action from one state, in which the implicit timeout is set by these calls. -/
structure Guards (runs : Runs Whole Recorded) (during : Nat) (restore : Nat → Nat) (start : Whole)
    (calls : List TimeoutCall) (plain : Action Whole Value) (recorded : Action Recorded Value)
    (unfailing : Action Whole Value) : Prop where
  recorded : ∀ earlier,
    recorded.outcome (runs.record earlier start) =
      ((plain.outcome start).1, runs.record (earlier ++ calls) (plain.outcome start).2)
  putBack : PutBack during restore (plain.outcome start).1 calls
  unfailing : calls.length = 2 → unfailing.outcome start = plain.outcome start
  settled : runs.steady →
    runs.plain.implicitTimeout (plain.outcome start).2 =
      if calls.isEmpty then runs.plain.implicitTimeout start
      else restore (runs.plain.implicitTimeout start)

section SideBySide

variable {runs : Runs Whole Recorded} {during : Nat} {restore : Nat → Nat} {start : Whole}
  {plain : Action Whole Value} {recorded : Action Recorded Value} {unfailing : Action Whole Value}

theorem Quiet.guards (quiet : Quiet runs plain recorded unfailing) :
    Guards runs during restore start [] plain recorded unfailing := by
  constructor
  · intro earlier
    rw [List.append_nil, quiet.recorded]
  · exact .untouched
  · intro two
    exact absurd two (by decide)
  · intro steady
    exact quiet.settled steady start

/-- Quiet actions before the timeout is lowered. The state after them has to be followed by the proof for
what comes next. -/
theorem Quiet.bind_guards (quiet : Quiet runs plain recorded unfailing)
    {next : Value → Action Whole Result} {recordedNext : Value → Action Recorded Result}
    {unfailingNext : Value → Action Whole Result}
    (later : ∀ value after, plain.outcome start = (.ok value, after) → ∃ calls,
      Guards runs during restore after calls (next value) (recordedNext value) (unfailingNext value)) :
    ∃ calls, Guards runs during restore start calls (plain >>= next) (recorded >>= recordedNext)
      (unfailing >>= unfailingNext) := by
  have recordedEnd (earlier : List TimeoutCall) := quiet.recorded earlier start
  have unfailingEnd := quiet.unfailing start
  have kept : runs.steady → _ := fun steady => quiet.settled steady start
  cases ended : plain.outcome start with
  | mk result after =>
      rw [ended] at unfailingEnd
      simp only [ended] at recordedEnd kept
      cases result with
      | ok value =>
          obtain ⟨calls, guards⟩ := later value after ended
          refine ⟨calls, ?_⟩
          have whole : (plain >>= next).outcome start = _ := Action.outcome_bind_of_ok ended
          constructor
          · intro earlier
            rw [Action.outcome_bind_of_ok (recordedEnd earlier), whole, guards.recorded]
          · rw [whole]
            exact guards.putBack
          · intro two
            rw [Action.outcome_bind_of_ok unfailingEnd, whole, guards.unfailing two]
          · intro steady
            rw [whole, guards.settled steady, kept steady]
      | error error =>
          refine ⟨[], ?_⟩
          have whole : (plain >>= next).outcome start = _ := Action.outcome_bind_of_error ended
          constructor
          · intro earlier
            rw [Action.outcome_bind_of_error (recordedEnd earlier), whole, List.append_nil]
          · exact .untouched
          · intro two
            exact absurd two (by decide)
          · intro steady
            rw [whole, kept steady]
            rfl

theorem Guards.bind_quiet {calls : List TimeoutCall} {next : Value → Action Whole Result}
    {recordedNext : Value → Action Recorded Result} {unfailingNext : Value → Action Whole Result}
    (guards : Guards runs during restore start calls plain recorded unfailing)
    (later : ∀ value, Quiet runs (next value) (recordedNext value) (unfailingNext value)) :
    Guards runs during restore start calls (plain >>= next) (recorded >>= recordedNext)
      (unfailing >>= unfailingNext) := by
  rcases guards with ⟨recordedEnd, putBack, unfailingEnd, settled⟩
  cases ended : plain.outcome start with
  | mk result after =>
      simp only [ended] at recordedEnd putBack unfailingEnd settled
      cases result with
      | ok value =>
          have whole : (plain >>= next).outcome start = _ := Action.outcome_bind_of_ok ended
          constructor
          · intro earlier
            rw [Action.outcome_bind_of_ok (recordedEnd earlier), whole, (later value).recorded]
          · rw [whole]
            cases putBack with
            | untouched => exact .untouched
            | refused before error failed => cases failed
            | restored before later ending => exact .restored before later ending
          · intro two
            rw [Action.outcome_bind_of_ok (unfailingEnd two), whole, (later value).unfailing]
          · intro steady
            rw [whole, (later value).settled steady, settled steady]
      | error error =>
          have whole : (plain >>= next).outcome start = _ := Action.outcome_bind_of_error ended
          constructor
          · intro earlier
            rw [Action.outcome_bind_of_error (recordedEnd earlier), whole]
          · rw [whole]
            cases putBack with
            | untouched => exact .untouched
            | refused before error' failed =>
                cases failed
                exact .refused before error rfl
            | restored before later ending => exact .restored before later ending
          · intro two
            rw [Action.outcome_bind_of_error (unfailingEnd two), whole]
          · intro steady
            rw [whole, settled steady]

theorem Quiet.withTimeout (quiet : Quiet runs plain recorded unfailing) {after : Nat} (during : Nat)
    (belongs : restore (runs.plain.implicitTimeout start) = after) :
    ∃ calls, Guards runs during restore start calls (runs.plain.withTimeout during after plain)
      (runs.recording.withTimeout during after recorded)
      (runs.unfailing.withTimeout during after unfailing) := by
  have recordedCall (earlier : List TimeoutCall) := runs.records earlier during start
  have unfailingCall := runs.passes during start
  cases ended : (runs.plain.setImplicitTimeout during).outcome start with
  | mk ending lowered =>
      rw [ended] at unfailingCall
      simp only [ended] at recordedCall
      cases ending with
      | error error =>
          have whole : (runs.plain.withTimeout during after plain).outcome start = _ :=
            Browser.withTimeout_of_refused ended
          refine ⟨[⟨runs.plain.implicitTimeout start, during, .error error⟩], ?_⟩
          constructor
          · intro earlier
            rw [Browser.withTimeout_of_refused (recordedCall earlier), whole]
          · rw [whole]
            exact .refused _ error rfl
          · intro two
            exact absurd two (by simp)
          · intro steady
            have set := (runs.sets steady during start).1
            rw [ended] at set
            exact absurd set (by simp)
      | ok _ =>
          have whole : (runs.plain.withTimeout during after plain).outcome start = _ :=
            Browser.withTimeout_of_lowered ended
          let final := (plain.outcome lowered).2
          refine ⟨[⟨runs.plain.implicitTimeout start, during, .ok ()⟩,
            ⟨runs.plain.implicitTimeout final, after,
              ((runs.plain.setImplicitTimeout after).outcome final).1⟩], ?_⟩
          constructor
          · intro earlier
            rw [Browser.withTimeout_of_lowered (recordedCall earlier), whole, quiet.recorded,
              runs.records, List.append_assoc]
            rfl
          · rw [whole, ← belongs]
            exact .restored _ _ _
          · intro _
            rw [Browser.withTimeout_of_lowered unfailingCall, whole, quiet.unfailing, runs.passes]
          · intro steady
            rw [whole, belongs]
            exact (runs.sets steady after final).2

/-- The timeout that belongs there is the one before. -/
theorem Quiet.withLoweredTimeout (quiet : Quiet runs plain recorded unfailing) (during : Nat) :
    ∃ calls, Guards runs during id start calls (runs.plain.withLoweredTimeout during plain)
      (runs.recording.withLoweredTimeout during recorded)
      (runs.unfailing.withLoweredTimeout during unfailing) := by
  obtain ⟨calls, guards⟩ : ∃ calls, Guards runs during id start calls _ _ _ :=
    quiet.withTimeout during rfl
  rcases guards with ⟨recordedEnd, putBack, unfailingEnd, settled⟩
  refine ⟨calls, ?_⟩
  constructor
  · intro earlier
    rw [Browser.outcome_withLoweredTimeout, Browser.outcome_withLoweredTimeout, runs.recordedTimeout]
    exact recordedEnd earlier
  · rw [Browser.outcome_withLoweredTimeout]
    exact putBack
  · intro two
    rw [Browser.outcome_withLoweredTimeout, Browser.outcome_withLoweredTimeout, runs.unfailingTimeout]
    exact unfailingEnd two
  · intro steady
    rw [Browser.outcome_withLoweredTimeout]
    exact settled steady

end SideBySide

theorem Quiet.of_alike {action : (State : Type) → Browser State → Action State Value}
    (alike : ∀ {State State' : Type} {matching : State → State' → Prop} {browser : Browser State}
      {other : Browser State'}, browser.Alike matching other →
        Action.Alike matching (action State browser) (action State' other)) (browser : Browser State) :
    Quiet browser.runs (action _ browser) (action _ browser.recording) (action _ browser.unfailing) := by
  constructor
  · intro calls state
    obtain ⟨ending, after⟩ := alike (browser.recording_alike calls) state (state, calls) rfl
    exact Prod.ext ending.symm after
  · intro state
    obtain ⟨ending, after⟩ := alike browser.unfailing_alike state state rfl
    exact (Prod.ext ending after).symm
  · intro steady state
    exact (alike (steady.keeps (browser.implicitTimeout state)) state state ⟨rfl, rfl⟩).2.2

end Locator
