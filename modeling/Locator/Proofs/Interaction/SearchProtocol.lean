import Locator.Interaction.Scroll
import Locator.Proofs.Browser.Journal

/-!
# The calls of a search

Against any browser a search keeps to one order of calls: it looks at the matches, reads the offset, takes a
step, reads the offset again, and looks once more. It ends with the first match that is accepted, with the
first call that fails, or when the last steps were as many stalls as it bears.
-/

namespace Locator

set_option autoImplicit false

open Locator.Action

variable {State : Type}

/-- The call that takes one step in a direction. -/
def Direction.stepEntry (direction : Direction) (container : Handle) (step : Int) (answer : Except Error Unit) :
    Entry :=
  match direction with
  | .down => .scrollBy container 0 step answer
  | .right => .scrollBy container step 0 answer

namespace Scroller

/-- What a search notes: a call to the browser, or a question to its caller about a match. -/
inductive Note where
  | call (entry : Entry)
  | asked (candidate : Handle) (answer : Except Error Bool)

/-- A match that was not accepted. -/
def Note.rejected (candidate : Handle) : Note :=
  .asked candidate (.ok false)

/-- The same questions beside a journal. -/
def asking (accept : Handle → Action State Bool) (candidate : Handle) : Action (State × List Note) Bool :=
  (accept candidate).noting (.asked candidate)

/-- The questions about matches, in their order, up to the first that is accepted or cannot be answered. -/
inductive Asked : List Handle → Except Error (Option Handle) → List Note → Prop where
  | rejected (candidates : List Handle) : Asked candidates (.ok none) (candidates.map .rejected)
  | accepted (earlier : List Handle) (candidate : Handle) (later : List Handle) :
      Asked (earlier ++ candidate :: later) (.ok (some candidate))
        (earlier.map .rejected ++ [.asked candidate (.ok true)])
  | failed (earlier : List Handle) (candidate : Handle) (later : List Handle) (error : Error) :
      Asked (earlier ++ candidate :: later) (.error error)
        (earlier.map .rejected ++ [.asked candidate (.error error)])

/-- One look at the matches, and the questions about them. -/
inductive Probed (path : Path) : Except Error (Option Handle) → List Note → Prop where
  | failed (error : Error) : Probed path (.error error) [.call (.findAll path (.error error))]
  | asked {candidates : List Handle} {answer : Except Error (Option Handle)} {notes : List Note}
      (asked : Asked candidates answer notes) :
      Probed path answer (.call (.findAll path (.ok candidates)) :: notes)

/-- A probe that accepted none of the candidates, and the step after it. -/
structure Round where
  candidates : List Handle
  before : Offset
  after : Offset

/-- The step did not go strictly forward. -/
def Round.Stalled (direction : Direction) (round : Round) : Prop :=
  ¬direction.place round.before < direction.place round.after

/-- The last steps were stalls, `maxStalls` of them. -/
def Stuck (direction : Direction) (maxStalls : Nat) (rounds : List Round) : Prop :=
  ∃ earlier last, rounds = earlier ++ last ∧ last.length = maxStalls ∧ ∀ round ∈ last, round.Stalled direction

/-- A search that is stuck takes no further step. -/
def NeverStuckBefore (direction : Direction) (maxStalls : Nat) (rounds : List Round) : Prop :=
  ∀ earlier, earlier <+: rounds → earlier ≠ rounds → ¬Stuck direction maxStalls earlier

section Protocol

variable (scroller : Scroller) (direction : Direction) (path : Path)

/-- The calls of a round. -/
def Round.notes (round : Round) : List Note :=
  .call (.findAll path (.ok round.candidates)) :: round.candidates.map .rejected ++
    [.call (.scrollOffset scroller.container (.ok round.before)),
      .call (direction.stepEntry scroller.container scroller.settings.step (.ok ())),
      .call (.scrollOffset scroller.container (.ok round.after))]

/-- A step one of whose calls failed, and no call after that. -/
inductive Broken (error : Error) : List Note → Prop where
  | before : Broken error [.call (.scrollOffset scroller.container (.error error))]
  | step (before : Offset) :
      Broken error
        [.call (.scrollOffset scroller.container (.ok before)),
          .call (direction.stepEntry scroller.container scroller.settings.step (.error error))]
  | after (before : Offset) :
      Broken error
        [.call (.scrollOffset scroller.container (.ok before)),
          .call (direction.stepEntry scroller.container scroller.settings.step (.ok ())),
          .call (.scrollOffset scroller.container (.error error))]

/-- How a search ends after some rounds, and what it notes after them. -/
inductive EndsAfter (rounds : List Round) : Except Error Handle → List Note → Prop where
  | found {handle : Handle} {notes : List Note} (probed : Probed path (.ok (some handle)) notes) :
      EndsAfter rounds (.ok handle) notes
  | exhausted {notes : List Note} (probed : Probed path (.ok none) notes)
      (stuck : Stuck direction scroller.settings.maxStalls rounds) :
      EndsAfter rounds (.error (Scroller.exhausted path direction rounds.length)) notes
  | unprobed {error : Error} {notes : List Note} (probed : Probed path (.error error) notes) :
      EndsAfter rounds (.error error) notes
  | broken {error : Error} {notes more : List Note} (probed : Probed path (.ok none) notes)
      (going : ¬Stuck direction scroller.settings.maxStalls rounds)
      (broken : Broken scroller direction error more) :
      EndsAfter rounds (.error error) (notes ++ more)

/-- The search goes through these rounds and ends so, unless it has not ended within the steps that are followed. -/
structure Follows (limit : Nat) (rounds : List Round) (answer : Except Error Handle) (last : List Note) :
    Prop where
  patient : NeverStuckBefore direction scroller.settings.maxStalls rounds
  ending :
    rounds.length < limit ∧ EndsAfter scroller direction path rounds answer last ∨
      rounds.length = limit ∧ answer = .error ⟨.endless, path.describe⟩ ∧ last = []

end Protocol

/-- Beside a journal the search goes as it does without one, and what it notes follows the protocol. -/
def NotesProtocol (scroller : Scroller) (direction : Direction) (path : Path) (limit : Nat)
    (plain : Action State Handle) (noted : Action (State × List Note) Handle) (state : State) : Prop :=
  ∃ rounds last,
    noted.outcome (state, []) =
      ((plain.outcome state).1, (plain.outcome state).2,
        rounds.flatMap (Round.notes scroller direction path) ++ last) ∧
    Follows scroller direction path limit rounds (plain.outcome state).1 last

/-! ## One round -/

theorem Asked.further {candidates : List Handle} {answer : Except Error (Option Handle)} {notes : List Note}
    (first : Handle) (asked : Asked candidates answer notes) :
    Asked (first :: candidates) answer (.rejected first :: notes) := by
  cases asked with
  | rejected => exact .rejected (first :: candidates)
  | accepted earlier candidate later => exact .accepted (first :: earlier) candidate later
  | failed earlier candidate later error => exact .failed (first :: earlier) candidate later error

theorem Probed.rejected {path : Path} {notes : List Note} (probed : Probed path (.ok none) notes) :
    ∃ candidates : List Handle, notes = .call (.findAll path (.ok candidates)) :: candidates.map .rejected := by
  cases probed with
  | asked asked =>
      cases asked with
      | rejected => exact ⟨_, rfl⟩

theorem firstAccepted_notes (accept : Handle → Action State Bool) (candidates : List Handle) :
    Notes (firstAccepted (asking accept) candidates) (Asked candidates) := by
  induction candidates with
  | nil => exact .pure (.rejected [])
  | cons candidate others ih =>
      apply (Notes.of_noting (Note.asked candidate) (accept candidate)).bind
      · rintro error _ rfl
        exact .failed [] candidate others error
      · rintro accepted _ rfl
        cases accepted with
        | true => exact .pure (.accepted [] candidate others)
        | false => exact ih.weaken fun _ _ => .further candidate

theorem probe_notes (browser : Browser State) (path : Path) (accept : Handle → Action State Bool) :
    Notes (probe (browser.noting .call) path (asking accept)) (Probed path) := by
  apply (Notes.of_noting (fun answer => Note.call (.findAll path answer)) (browser.findAll path)).bind
  · rintro error _ rfl
    exact .failed error
  · rintro candidates _ rfl
    exact (firstAccepted_notes accept candidates).weaken fun _ _ => .asked

theorem place_notes (browser : Browser State) (scroller : Scroller) (direction : Direction) :
    Notes (scroller.place (browser.noting .call) direction) fun answer notes =>
      match answer with
      | .ok place => ∃ offset, place = direction.place offset ∧
          notes = [Note.call (.scrollOffset scroller.container (.ok offset))]
      | .error error => notes = [Note.call (.scrollOffset scroller.container (.error error))] := by
  apply (Notes.of_noting (fun answer => Note.call (.scrollOffset scroller.container answer))
    (browser.scrollOffset scroller.container)).bind
  · rintro error _ rfl
    rfl
  · rintro offset _ rfl
    exact .pure ⟨offset, rfl, rfl⟩

theorem step_notes (browser : Browser State) (scroller : Scroller) (direction : Direction) :
    Notes (scroller.step (browser.noting .call) direction) fun answer notes =>
      notes = [Note.call (direction.stepEntry scroller.container scroller.settings.step answer)] := by
  cases direction with
  | down =>
      exact .of_noting (fun answer => Note.call (.scrollBy scroller.container 0 scroller.settings.step answer)) _
  | right =>
      exact .of_noting (fun answer => Note.call (.scrollBy scroller.container scroller.settings.step 0 answer)) _

/-! ## Counting stalls -/

section Stalls

variable {direction : Direction} {rounds : List Round}

theorem stuck_nil {maxStalls : Nat} : Stuck direction maxStalls [] ↔ maxStalls ≤ 0 := by
  constructor
  · rintro ⟨earlier, last, none, rfl, _⟩
    rw [(List.append_eq_nil_iff.mp none.symm).2]
    exact Nat.le_refl 0
  · intro zero
    exact ⟨[], [], rfl, (Nat.le_zero.mp zero).symm, by simp⟩

theorem stuck_zero : Stuck direction 0 rounds :=
  ⟨rounds, [], (List.append_nil rounds).symm, rfl, by simp⟩

theorem stuck_concat {maxStalls : Nat} {round : Round} :
    Stuck direction (maxStalls + 1) (rounds ++ [round]) ↔
      round.Stalled direction ∧ Stuck direction maxStalls rounds := by
  constructor
  · rintro ⟨earlier, last, split, count, stalls⟩
    rcases List.eq_nil_or_concat last with rfl | ⟨others, final, rfl⟩
    · simp at count
    · rw [List.concat_eq_append, ← List.append_assoc] at split
      obtain ⟨front, same⟩ := List.append_inj' split rfl
      obtain rfl := List.singleton_inj.mp same
      refine ⟨stalls round (by simp), earlier, others, front, by simpa using count, ?_⟩
      intro other mem
      exact stalls other (by simp [mem])
  · rintro ⟨stalled, earlier, last, rfl, rfl, stalls⟩
    refine ⟨earlier, last ++ [round], List.append_assoc _ _ _, by simp, ?_⟩
    intro other mem
    rcases List.mem_append.mp mem with before | now
    · exact stalls other before
    · rw [List.mem_singleton.mp now]
      exact stalled

/-- The search counts as many stalls as there are at the end. -/
def Counts (direction : Direction) (stalls : Nat) (rounds : List Round) : Prop :=
  ∀ maxStalls, Stuck direction maxStalls rounds ↔ maxStalls ≤ stalls

theorem Counts.next {stalls : Nat} (counts : Counts direction stalls rounds) (round : Round) :
    Counts direction (if direction.place round.before < direction.place round.after then 0 else stalls + 1)
      (rounds ++ [round]) := by
  intro maxStalls
  cases maxStalls with
  | zero => simp [stuck_zero]
  | succ maxStalls =>
      rw [stuck_concat, counts maxStalls, Round.Stalled]
      split
      case isTrue forward => simp [forward]
      case isFalse stalled => simp [stalled]

theorem NeverStuckBefore.next {maxStalls : Nat} (patient : NeverStuckBefore direction maxStalls rounds)
    (going : ¬Stuck direction maxStalls rounds) (round : Round) :
    NeverStuckBefore direction maxStalls (rounds ++ [round]) := by
  intro earlier isEarlier proper
  rcases List.prefix_concat_iff.mp isEarlier with rfl | before
  · exact absurd rfl proper
  · by_cases now : earlier = rounds
    · rw [now]
      exact going
    · exact patient earlier before now

end Stalls

/-! ## The whole search -/

theorem EndsAfter.follows {scroller : Scroller} {direction : Direction} {path : Path} {done : List Round}
    {answer : Except Error Handle} {last : List Note} (ends : EndsAfter scroller direction path done answer last)
    (patient : NeverStuckBefore direction scroller.settings.maxStalls done) (limit : Nat) :
    ∃ rounds last', last = rounds.flatMap (Round.notes scroller direction path) ++ last' ∧
      Follows scroller direction path (done.length + (limit + 1)) (done ++ rounds) answer last' := by
  refine ⟨[], last, rfl, ?_⟩
  rw [List.append_nil]
  exact ⟨patient, .inl ⟨by omega, ends⟩⟩

/-- The search from where it stands: `done` are the rounds behind it. -/
theorem searchFrom_notes (browser : Browser State) (scroller : Scroller) (direction : Direction) (path : Path)
    (accept : Handle → Action State Bool) (limit : Nat) (done : List Round) (stalls steps : Nat)
    (taken : steps = done.length) (counts : Counts direction stalls done)
    (patient : NeverStuckBefore direction scroller.settings.maxStalls done) :
    Notes (scroller.searchFrom (browser.noting .call) direction path (asking accept) limit stalls steps)
      fun answer notes => ∃ rounds last, notes = rounds.flatMap (Round.notes scroller direction path) ++ last ∧
        Follows scroller direction path (done.length + limit) (done ++ rounds) answer last := by
  induction limit generalizing done stalls steps with
  | zero =>
      refine .throw ⟨[], [], rfl, ?_⟩
      rw [List.append_nil]
      exact ⟨patient, .inr ⟨rfl, rfl, rfl⟩⟩
  | succ limit ih =>
      apply (probe_notes browser path accept).bind
      · intro error notes probed
        exact EndsAfter.follows (.unprobed probed) patient limit
      intro found notes probed
      cases found with
      | some handle =>
          refine .pure ?_
          rw [List.append_nil]
          exact EndsAfter.follows (.found probed) patient limit
      | none =>
          by_cases ended : scroller.settings.maxStalls ≤ stalls
          · simp only [ended, if_true]
            refine .throw ?_
            rw [List.append_nil, taken]
            exact EndsAfter.follows (.exhausted probed ((counts _).mpr ended)) patient limit
          · have going : ¬Stuck direction scroller.settings.maxStalls done := fun stuck => ended ((counts _).mp stuck)
            simp only [ended, if_false]
            apply (place_notes browser scroller direction).bind
            · rintro error _ rfl
              exact EndsAfter.follows (.broken probed going .before) patient limit
            rintro _ _ ⟨before, rfl, rfl⟩
            apply (step_notes browser scroller direction).bind
            · rintro error _ rfl
              exact EndsAfter.follows (.broken probed going (.step before)) patient limit
            rintro _ _ rfl
            apply (place_notes browser scroller direction).bind
            · rintro error _ rfl
              exact EndsAfter.follows (.broken probed going (.after before)) patient limit
            rintro _ _ ⟨after, rfl, rfl⟩
            obtain ⟨candidates, rfl⟩ := probed.rejected
            let round : Round := ⟨candidates, before, after⟩
            apply (ih (done ++ [round]) _ (steps + 1) (by simp [taken]) (counts.next round)
              (patient.next going round)).weaken
            rintro answer _ ⟨rounds, last, rfl, follows⟩
            refine ⟨round :: rounds, last, by simp [round, Round.notes], ?_⟩
            have same : (done ++ [round]).length + limit = done.length + (limit + 1) := by simp; omega
            rw [same, List.append_assoc] at follows
            exact follows

theorem searchFrom_follows (browser : Browser State) (scroller : Scroller) (direction : Direction) (path : Path)
    (accept : Handle → Action State Bool) (limit : Nat) (state : State) :
    NotesProtocol scroller direction path limit (scroller.searchFrom browser direction path accept limit 0 0)
      (scroller.searchFrom (browser.noting .call) direction path (asking accept) limit 0 0) state := by
  have alike := browser.noting_alike Note.call
  have accepts : ∀ candidate, Alike (fun state (whole : State × List Note) => whole.1 = state)
      (accept candidate) (asking accept candidate) := fun candidate => noting_alike _ _
  have patient : NeverStuckBefore direction scroller.settings.maxStalls [] := by
    intro earlier isEarlier proper
    exact absurd (List.prefix_nil.mp isEarlier) proper
  have notes := searchFrom_notes browser scroller direction path accept limit [] 0 0 rfl (fun _ => stuck_nil) patient
  obtain ⟨_, same, rounds, last, rfl, follows⟩ := notes.outcome_eq
    (searchFrom_alike_of (probe_alike alike accepts path) (place_alike alike scroller direction)
      (step_alike alike scroller direction) limit 0 0) state []
  rw [List.length_nil, Nat.zero_add] at follows
  exact ⟨rounds, last, same, follows⟩

/-! ## The limit -/

/-- Where the action does not end with the error, the other one ends as it does. -/
def SameUnless (error : Error) (action other : Action State Handle) : Prop :=
  ∀ state, (action.outcome state).1 ≠ .error error → other.outcome state = action.outcome state

theorem SameUnless.bind {Value : Type} {error : Error} {action : Action State Value}
    {next next' : Value → Action State Handle} (later : ∀ value, SameUnless error (next value) (next' value)) :
    SameUnless error (action >>= next) (action >>= next') := by
  intro state ended
  cases outcome : action.outcome state with
  | mk answer after =>
      cases answer with
      | error other => rw [outcome_bind_of_error outcome, outcome_bind_of_error outcome]
      | ok value =>
          rw [outcome_bind_of_ok outcome] at ended
          rw [outcome_bind_of_ok outcome, outcome_bind_of_ok outcome]
          exact later value after ended

/-- Only of a search that does not end within the steps that are followed does the answer depend on their number. -/
theorem searchFrom_longer (browser : Browser State) (scroller : Scroller) (direction : Direction) (path : Path)
    (accept : Handle → Action State Bool) (limit more stalls steps : Nat) (longer : limit ≤ more) :
    SameUnless ⟨.endless, path.describe⟩
      (scroller.searchFrom browser direction path accept limit stalls steps)
      (scroller.searchFrom browser direction path accept more stalls steps) := by
  induction limit generalizing more stalls steps with
  | zero =>
      intro state ended
      exact absurd rfl ended
  | succ limit ih =>
      obtain ⟨more, rfl⟩ : ∃ more', more = more' + 1 := ⟨more - 1, by omega⟩
      apply SameUnless.bind
      intro found
      cases found with
      | some found => exact fun _ _ => rfl
      | none =>
          by_cases ended : scroller.settings.maxStalls ≤ stalls
          · simp only [ended, if_true]
            exact fun _ _ => rfl
          · simp only [ended, if_false]
            apply SameUnless.bind
            intro before
            apply SameUnless.bind
            intro _
            apply SameUnless.bind
            intro after
            exact ih more _ _ (by omega)

/-- Against any browser and with any test for the matches, a search goes through rounds of one probe and one
step, and ends with the first match of its last probe that is accepted, with the error of the first call that
fails, or because it is stuck, which it has not been before. A search has no limit of steps by itself: it goes on
until it ends in one of these ways. The limit is that of the search as it is followed here, for `stepLimit` steps;
the error beyond says only that it has not ended so far. With any other limit the search follows the same protocol,
and one that ends within a limit goes the same under every greater one. -/
theorem search_follows_protocol (browser : Browser State) (scroller : Scroller) (direction : Direction)
    (path : Path) (accept : Handle → Action State Bool) (state : State) :
    NotesProtocol scroller direction path stepLimit (scroller.untilAccepted browser direction path accept)
      (scroller.untilAccepted (browser.noting .call) direction path (asking accept)) state ∧
    ∀ limit,
      NotesProtocol scroller direction path limit (scroller.searchFrom browser direction path accept limit 0 0)
        (scroller.searchFrom (browser.noting .call) direction path (asking accept) limit 0 0) state ∧
      ∀ more, limit ≤ more →
        ((scroller.searchFrom browser direction path accept limit 0 0).outcome state).1 ≠
          .error ⟨.endless, path.describe⟩ →
        (scroller.searchFrom browser direction path accept more 0 0).outcome state =
          (scroller.searchFrom browser direction path accept limit 0 0).outcome state := by
  refine ⟨searchFrom_follows browser scroller direction path accept stepLimit state, fun limit => ⟨?_, ?_⟩⟩
  · exact searchFrom_follows browser scroller direction path accept limit state
  · intro more longer ended
    exact searchFrom_longer browser scroller direction path accept limit more 0 0 longer state ended

end Scroller

end Locator
