import Locator.Proofs.Browser.Journal
import Locator.Proofs.Interaction.Clearing

/-!
# The effort of clearing an input

The value that is cleared belongs to the page, which may put back more than was deleted. Clearing still ends
after a limited number of calls: strict clearing gives up as soon as the value has grown, and in its last attempt
it types nothing, so what it types is bounded by the first length that it reads key by key.
-/

namespace Locator

set_option autoImplicit false

open Locator.Action

variable {State Value Result : Type}

/-! ## Reading and typing in a journal -/

/-- The keys of a call that types, whether it succeeds or not. -/
def Entry.keys? : Entry → Option String
  | .sendKeys _ keys _ => some keys
  | _ => none

/-- The keys that are typed, call by call. -/
def keysTyped (journal : List Entry) : List String :=
  journal.filterMap Entry.keys?

/-- The call asks for a value. -/
def Entry.asksValue : Entry → Bool
  | .attribute? _ name _ => name == "value"
  | _ => false

/-- How often a value is asked for. -/
def timesAsked (journal : List Entry) : Nat :=
  journal.countP Entry.asksValue

@[simp]
theorem keysTyped_nil : keysTyped [] = [] :=
  rfl

@[simp]
theorem keysTyped_append (journal later : List Entry) :
    keysTyped (journal ++ later) = keysTyped journal ++ keysTyped later :=
  List.filterMap_append

@[simp]
theorem timesAsked_append (journal later : List Entry) :
    timesAsked (journal ++ later) = timesAsked journal + timesAsked later :=
  List.countP_append

/-- The calls by which the value of an input is read, with what comes of it: its element is looked up, unless it
is known, and asked. -/
inductive ReadsValue : Target → Except Error String → List Entry → Prop where
  | handle (handle : Handle) (answer : Except Error (Option String)) :
      ReadsValue (.handle handle) (answer.map (·.getD "")) [.attribute? handle "value" answer]
  | lost (path : Path) (error : Error) : ReadsValue (.path path) (.error error) [.find path (.error error)]
  | path (path : Path) (handle : Handle) (answer : Except Error (Option String)) :
      ReadsValue (.path path) (answer.map (·.getD "")) [.find path (.ok handle), .attribute? handle "value" answer]

section ReadsValue

variable {field : Target} {answer other : Except Error String} {entries : List Entry}

theorem ReadsValue.typesNothing (reads : ReadsValue field answer entries) : keysTyped entries = [] := by
  cases reads <;> rfl

theorem ReadsValue.asks_le (reads : ReadsValue field answer entries) : timesAsked entries ≤ 1 := by
  cases reads with
  | handle | path => exact Nat.le_refl 1
  | lost => exact Nat.zero_le 1

theorem ReadsValue.asksOnce {value : String} (reads : ReadsValue field answer entries) (read : answer = .ok value) :
    timesAsked entries = 1 := by
  cases reads with
  | handle => rfl
  | lost => cases read
  | path => rfl

theorem ReadsValue.ne_nil (reads : ReadsValue field answer entries) : entries ≠ [] := by
  cases reads <;> exact List.cons_ne_nil _ _

/-- The calls tell what has been read. -/
theorem ReadsValue.unique (reads : ReadsValue field answer entries) (again : ReadsValue field other entries) :
    answer = other := by
  cases reads <;> cases again <;> rfl

end ReadsValue

/-- The calls type these keys one after the other, up to the first call that fails. -/
structure Presses (keys : List String) (answer : Except Error Value) (entries : List Entry) : Prop where
  blind : timesAsked entries = 0
  typed : keysTyped entries <+: keys
  finished : ∀ value, answer = .ok value → keysTyped entries = keys
  failed : ∀ error, answer = .error error → ∃ entry ∈ entries, entry.succeeded = false

theorem Presses.nil {value : Value} : Presses [] (.ok value : Except Error Value) [] :=
  ⟨rfl, List.nil_prefix, fun _ _ => rfl, nofun⟩

theorem Presses.stopped {keys : List String} {error : Error} {entries : List Entry} (later : List String)
    (presses : Presses keys (.error error : Except Error Value) entries) :
    Presses (keys ++ later) (.error error : Except Error Result) entries :=
  ⟨presses.blind, presses.typed.trans (List.prefix_append _ _), nofun,
    fun _ _ => presses.failed error rfl⟩

theorem Presses.append {keys later : List String} {value : Value} {answer : Except Error Result}
    {entries rest : List Entry} (presses : Presses keys (.ok value) entries) (then_ : Presses later answer rest) :
    Presses (keys ++ later) answer (entries ++ rest) := by
  have all := presses.finished value rfl
  constructor
  · rw [timesAsked_append, presses.blind, then_.blind]
  · rw [keysTyped_append, all]
    exact (List.prefix_append_right_inj keys).mpr then_.typed
  · intro value ended
    rw [keysTyped_append, all, then_.finished value ended]
  · intro error ended
    obtain ⟨entry, mem, failed⟩ := then_.failed error ended
    exact ⟨entry, List.mem_append_right _ mem, failed⟩

/-- The browser with a journal of its calls. -/
abbrev Browser.journaled (browser : Browser State) : Browser (State × List Entry) :=
  browser.noting id

variable (browser : Browser State) (field : Target)

theorem locate_notes : Notes (browser.journaled.locate field) fun _ entries => keysTyped entries = [] := by
  cases field with
  | handle handle => exact .pure rfl
  | path path =>
      apply (Notes.of_noting (fun answer => Entry.find path answer) (browser.find path)).weaken
      rintro answer _ rfl
      rfl

theorem valueOf_notes : Notes (browser.journaled.valueOf field) (ReadsValue field) := by
  have asks (handle : Handle) :=
    Notes.of_noting (fun answer => Entry.attribute? handle "value" answer) (browser.attribute? handle "value")
  cases field with
  | handle handle =>
      apply (asks handle).bind
      · rintro error _ rfl
        exact .handle handle (.error error)
      · rintro answer _ rfl
        exact .pure (.handle handle (.ok answer))
  | path path =>
      apply (Notes.of_noting (fun answer => Entry.find path answer) (browser.find path)).bind
      · rintro error _ rfl
        exact .lost path error
      · rintro handle _ rfl
        apply (asks handle).bind
        · rintro error _ rfl
          exact .path path handle (.error error)
        · rintro answer _ rfl
          exact .pure (.path path handle (.ok answer))

theorem sendKeysTo_notes (keys : String) : Notes (browser.journaled.sendKeysTo keys field) (Presses [keys]) := by
  have sends (handle : Handle) :=
    Notes.of_noting (fun answer => Entry.sendKeys handle keys answer) (browser.sendKeys handle keys)
  have failed (handle : Handle) (error : Error) :
      ∃ entry ∈ [Entry.sendKeys handle keys (.error error)], entry.succeeded = false :=
    ⟨_, List.mem_singleton.mpr rfl, rfl⟩
  cases field with
  | handle handle =>
      apply (sends handle).bind
      · rintro error _ rfl
        exact ⟨rfl, List.prefix_refl _, nofun, fun _ _ => failed handle error⟩
      · rintro _ _ rfl
        exact .pure ⟨rfl, List.prefix_refl _, fun _ _ => rfl, nofun⟩
  | path path =>
      apply (Notes.of_noting (fun answer => Entry.find path answer) (browser.find path)).bind
      · rintro error _ rfl
        exact ⟨rfl, List.nil_prefix, nofun, fun _ _ => ⟨_, List.mem_singleton.mpr rfl, rfl⟩⟩
      · rintro handle _ rfl
        apply (sends handle).bind
        · rintro error _ rfl
          refine ⟨rfl, List.prefix_refl _, nofun, fun _ _ => ?_⟩
          obtain ⟨entry, mem, entryFailed⟩ := failed handle error
          exact ⟨entry, List.mem_append_right _ mem, entryFailed⟩
        · rintro _ _ rfl
          exact .pure ⟨rfl, List.prefix_refl _, fun _ _ => rfl, nofun⟩

theorem repeatKey_notes (key : Char) (count : Nat) :
    Notes (browser.journaled.repeatKey field key count)
      (Presses (List.replicate count (String.singleton key))) := by
  induction count with
  | zero => exact .pure .nil
  | succ count ih =>
      rw [List.replicate_succ, ← List.singleton_append]
      apply (sendKeysTo_notes browser field (String.singleton key)).bind
      · intro error entries presses
        exact presses.stopped _
      · intro _ entries presses
        exact ih.weaken fun _ _ rest => presses.append rest

theorem valueLength_notes :
    Notes (browser.journaled.valueLength field) fun answer entries =>
      ∃ read : Except Error String, answer = read.map (·.toList.length) ∧ ReadsValue field read entries := by
  apply (valueOf_notes browser field).bind
  · intro error entries reads
    exact ⟨.error error, rfl, reads⟩
  · intro value entries reads
    refine .pure ⟨.ok value, rfl, ?_⟩
    rwa [List.append_nil]

/-! ## The course of the key-by-key loop -/

/-- An attempt of the loop: the value that it read, the calls by which it read it, and those by which it
typed. -/
structure Attempt where
  value : String
  reading : List Entry
  typing : List Entry

namespace Attempt

def length (attempt : Attempt) : Nat :=
  attempt.value.toList.length

def entries (attempt : Attempt) : List Entry :=
  attempt.reading ++ attempt.typing

/-- A backspace key for each character of the value, and then as many delete keys, one at a time. -/
def keys (attempt : Attempt) : List String :=
  List.replicate attempt.length (String.singleton Key.backspace) ++
    List.replicate attempt.length (String.singleton Key.delete)

theorem length_keys (attempt : Attempt) : attempt.keys.length = 2 * attempt.length := by
  simp only [keys, List.length_append, List.length_replicate]
  omega

/-- In an attempt that has `later` ones after it and comes after `previous` characters were read, something is left
to delete. A strict loop makes it only if the value has not grown, and if it is not the last one. -/
structure Made (field : Target) (mode : ClearMode) (later : Nat) (previous : Option Nat) (attempt : Attempt) :
    Prop where
  reads : ReadsValue field (.ok attempt.value) attempt.reading
  filled : attempt.value ≠ ""
  steady : mode = .strict → ∀ length ∈ previous, attempt.length ≤ length
  more : mode = .strict → 0 < later

end Attempt

/-- The course of a loop that has `left` attempts, when the attempt before has read `previous` characters: the
attempts in which it types, and `closing`, the last look at the value, if there is one after them. -/
inductive ClearingRun (field : Target) (mode : ClearMode) :
    (left : Nat) → (previous : Option Nat) → (answer : Except Error Unit) → List Attempt → (closing : List Entry) →
      Prop where
  /-- A lenient loop has had all its attempts. -/
  | spent {previous : Option Nat} (lenient : mode = .lenient) : ClearingRun field mode 0 previous (.ok ()) [] []
  /-- The value is read as empty. -/
  | emptied {left : Nat} {previous : Option Nat} {closing : List Entry} (looks : 0 < left ∨ mode = .strict)
      (reads : ReadsValue field (.ok "") closing) : ClearingRun field mode left previous (.ok ()) [] closing
  /-- A strict loop gives up, because the value has grown or at the last attempt. -/
  | gaveUp {left : Nat} {previous : Option Nat} {value : String} {closing : List Entry} (strict : mode = .strict)
      (reads : ReadsValue field (.ok value) closing) (filled : value ≠ "")
      (refuses : left ≤ 1 ∨ ∃ length ∈ previous, length < value.toList.length) :
      ClearingRun field mode left previous (.error clearFailed) [] closing
  /-- The value cannot be read. -/
  | unread {left : Nat} {previous : Option Nat} {error : Error} {closing : List Entry}
      (looks : 0 < left ∨ mode = .strict) (reads : ReadsValue field (.error error) closing) :
      ClearingRun field mode left previous (.error error) [] closing
  /-- A key cannot be sent. -/
  | broken {left : Nat} {previous : Option Nat} {error : Error} {attempt : Attempt}
      (made : attempt.Made field mode left previous)
      (presses : Presses attempt.keys (.error error : Except Error Unit) attempt.typing) :
      ClearingRun field mode (left + 1) previous (.error error) [attempt] []
  /-- All the keys are sent, and the loop goes on. -/
  | further {left : Nat} {previous : Option Nat} {answer : Except Error Unit} {attempt : Attempt}
      {attempts : List Attempt} {closing : List Entry} (made : attempt.Made field mode left previous)
      (presses : Presses attempt.keys (.ok () : Except Error Unit) attempt.typing)
      (rest : ClearingRun field mode left (some attempt.length) answer attempts closing) :
      ClearingRun field mode (left + 1) previous answer (attempt :: attempts) closing

/-- The calls of the loop run their course. -/
def RunsCourse (field : Target) (mode : ClearMode) (left : Nat) (previous : Option Nat) (answer : Except Error Unit)
    (journal : List Entry) : Prop :=
  ∃ attempts closing, journal = attempts.flatMap Attempt.entries ++ closing ∧
    ClearingRun field mode left previous answer attempts closing

section Course

variable {field} {mode : ClearMode} {left : Nat} {previous : Option Nat} {answer : Except Error Unit}

theorem RunsCourse.closing {closing : List Entry} (run : ClearingRun field mode left previous answer [] closing) :
    RunsCourse field mode left previous answer closing :=
  ⟨[], closing, rfl, run⟩

/-- Nothing is called after the last look. -/
theorem RunsCourse.ended {closing : List Entry} (run : ClearingRun field mode left previous answer [] closing) :
    RunsCourse field mode left previous answer (closing ++ []) := by
  rw [List.append_nil]
  exact .closing run

theorem RunsCourse.further {attempt : Attempt} {journal : List Entry}
    (made : attempt.Made field mode left previous)
    (presses : Presses attempt.keys (.ok () : Except Error Unit) attempt.typing)
    (rest : RunsCourse field mode left (some attempt.length) answer journal) :
    RunsCourse field mode (left + 1) previous answer (attempt.entries ++ journal) := by
  obtain ⟨attempts, closing, rfl, run⟩ := rest
  refine ⟨attempt :: attempts, closing, ?_, .further made presses run⟩
  rw [List.flatMap_cons, List.append_assoc]

end Course

/-- Whatever the browser answers, the loop runs its course. The induction is on the attempts that are left. -/
theorem clearByKey_runsCourse (mode : ClearMode) (left : Nat) (previous : Option Nat) :
    Notes (browser.journaled.clearByKey field mode left previous) (RunsCourse field mode left previous) := by
  induction left generalizing previous with
  | zero =>
      cases mode with
      | lenient => exact .pure (.closing (.spent rfl))
      | strict =>
          apply (valueOf_notes browser field).bind
          · intro error entries reads
            exact .closing (.unread (.inr rfl) reads)
          · intro value entries reads
            cases empty : value.isEmpty with
            | true =>
                obtain rfl := String.isEmpty_iff.mp empty
                exact .pure (.ended (.emptied (.inr rfl) reads))
            | false =>
                have filled : value ≠ "" := fun none => by simp [none] at empty
                exact .throw (.ended (.gaveUp rfl reads filled (.inl (Nat.zero_le 1))))
  | succ left ih =>
      unfold Browser.clearByKey
      apply (valueLength_notes browser field).bind
      · rintro error reading ⟨read, failed, reads⟩
        cases read with
        | ok value => cases failed
        | error error' =>
            cases failed
            exact .closing (.unread (.inl (Nat.succ_pos left)) reads)
      · rintro length reading ⟨read, answered, reads⟩
        cases read with
        | error error => cases answered
        | ok value =>
            cases answered
            by_cases empty : value.toList.length = 0
            · simp only [empty, if_true]
              obtain rfl : value = "" := String.toList_eq_nil_iff.mp (List.length_eq_zero_iff.mp empty)
              exact .pure (.ended (.emptied (.inl (Nat.succ_pos left)) reads))
            · simp only [if_neg empty]
              have filled : value ≠ "" := fun none => empty (by rw [none]; rfl)
              split
              case isTrue gives =>
                obtain ⟨rfl, refuses⟩ := gives
                refine .throw (.ended (.gaveUp rfl reads filled ?_))
                rcases refuses with grown | last
                · simp only [Option.any_eq_true, decide_eq_true_eq] at grown
                  exact .inr grown
                · exact .inl (Nat.succ_le_succ (Nat.le_of_eq last))
              case isFalse goes =>
                have made (typing : List Entry) :
                    (Attempt.mk value reading typing).Made field mode left previous := by
                  constructor
                  case reads => exact reads
                  case filled => exact filled
                  case steady =>
                    intro strict length known
                    refine Nat.le_of_not_lt fun grown => goes ⟨strict, .inl ?_⟩
                    simpa [Option.mem_def.mp known, Attempt.length] using grown
                  case more => exact fun strict => Nat.pos_of_ne_zero fun none => goes ⟨strict, .inr none⟩
                -- A key that cannot be sent ends the attempt, and with it the loop.
                have stopped {error : Error} (typing : List Entry)
                    (presses :
                      Presses (Attempt.mk value reading typing).keys (.error error : Except Error Unit) typing) :
                    RunsCourse field mode (left + 1) previous (.error error) (reading ++ typing) :=
                  ⟨[⟨value, reading, typing⟩], [], by simp [Attempt.entries], .broken (made typing) presses⟩
                apply (repeatKey_notes browser field Key.backspace value.toList.length).bind
                · intro error typing presses
                  exact stopped typing (presses.stopped _)
                · intro _ backspaces back
                  apply (repeatKey_notes browser field Key.delete value.toList.length).bind
                  · intro error deletes presses
                    exact stopped _ (back.append presses)
                  · intro _ deletes presses
                    apply (ih (some value.toList.length)).weaken
                    intro answer journal rest
                    have further :=
                      RunsCourse.further (made (backspaces ++ deletes)) (back.append presses) rest
                    simpa [Attempt.entries] using further

/-! ## The effort of the loop -/

/-- The length that was read first, if any was. -/
def firstLength : List Attempt → Nat
  | [] => 0
  | attempt :: _ => attempt.length

/-- What a course costs that was allowed `tries` attempts. -/
structure LoopEffort (field : Target) (mode : ClearMode) (tries : Nat) (answer : Except Error Unit)
    (attempts : List Attempt) (closing : List Entry) : Prop where
  /-- A strict loop that may not make any attempt looks at the value once. -/
  asks : timesAsked (attempts.flatMap Attempt.entries ++ closing) ≤ tries ∨
    mode = .strict ∧ tries = 0 ∧ attempts = []
  /-- All keys are typed in every attempt, unless a call fails in it. -/
  thorough : ∀ attempt ∈ attempts,
    (∀ entry ∈ attempt.typing, entry.succeeded = true) → keysTyped attempt.typing = attempt.keys
  steady : mode = .strict → attempts.Pairwise fun before after => after.length ≤ before.length
  /-- A value that was read and not typed on was empty, or strict clearing has failed on it. -/
  settled : ∀ value, ReadsValue field (.ok value) closing → value = "" ∨ mode = .strict ∧ answer = .error clearFailed
  bounded : mode = .strict →
    (keysTyped (attempts.flatMap Attempt.entries ++ closing)).length ≤ 2 * firstLength attempts * (tries - 1)

section Run

variable {field} {mode : ClearMode} {left : Nat} {previous : Option Nat} {answer : Except Error Unit}
  {attempts : List Attempt} {closing : List Entry}

theorem Presses.thorough {keys : List String} (presses : Presses keys answer closing)
    (succeeded : ∀ entry ∈ closing, entry.succeeded = true) : keysTyped closing = keys := by
  cases answer with
  | ok value => exact presses.finished value rfl
  | error error =>
      obtain ⟨entry, mem, failed⟩ := presses.failed error rfl
      rw [succeeded entry mem] at failed
      cases failed

/-- A strict loop does not make its last attempt. -/
theorem ClearingRun.length_le (run : ClearingRun field mode left previous answer attempts closing) :
    attempts.length ≤ left ∧ (mode = .strict → attempts.length ≤ left - 1) := by
  induction run with
  | spent | emptied | gaveUp | unread => exact ⟨Nat.zero_le _, fun _ => Nat.zero_le _⟩
  | broken made => exact ⟨Nat.le_add_left 1 _, made.more⟩
  | further made presses rest ih =>
      obtain ⟨all, strictly⟩ := ih
      refine ⟨Nat.succ_le_succ all, fun strict => ?_⟩
      have fewer := strictly strict
      have more := made.more strict
      rw [List.length_cons]
      omega

theorem ClearingRun.asks_le (run : ClearingRun field mode left previous answer attempts closing)
    (looks : 0 < left ∨ mode = .lenient) :
    timesAsked (attempts.flatMap Attempt.entries ++ closing) ≤ left := by
  have positive {left : Nat} (looks : 0 < left ∨ mode = .lenient) (looked : 0 < left ∨ mode = .strict) : 1 ≤ left := by
    rcases looks with more | rfl
    · exact more
    · exact looked.resolve_right nofun
  have once {later : Nat} {before : Option Nat} {attempt : Attempt} (made : attempt.Made field mode later before) :
      timesAsked attempt.reading = 1 :=
    made.reads.asksOnce rfl
  induction run with
  | spent => exact Nat.le_refl 0
  | emptied looked reads | unread looked reads => exact Nat.le_trans reads.asks_le (positive looks looked)
  | gaveUp strict reads => exact Nat.le_trans reads.asks_le (positive looks (.inr strict))
  | broken made presses =>
      simp [Attempt.entries, once made, presses.blind]
  | further made presses rest ih =>
      have later := ih (by
        cases mode with
        | strict => exact .inl (made.more rfl)
        | lenient => exact .inr rfl)
      rw [List.flatMap_cons, List.append_assoc, timesAsked_append, Attempt.entries, timesAsked_append, once made,
        presses.blind]
      omega

theorem ClearingRun.thorough (run : ClearingRun field mode left previous answer attempts closing) :
    ∀ attempt ∈ attempts,
      (∀ entry ∈ attempt.typing, entry.succeeded = true) → keysTyped attempt.typing = attempt.keys := by
  induction run with
  | spent | emptied | gaveUp | unread => exact nofun
  | broken made presses =>
      intro attempt mem
      rw [List.mem_singleton.mp mem]
      exact presses.thorough
  | further made presses rest ih =>
      intro attempt mem
      rcases List.mem_cons.mp mem with rfl | later
      · exact presses.thorough
      · exact ih attempt later

/-- A strict loop makes no attempt that reads more than was read before. -/
theorem ClearingRun.length_le_previous (run : ClearingRun field mode left previous answer attempts closing)
    (strict : mode = .strict) : ∀ length ∈ previous, ∀ attempt ∈ attempts, attempt.length ≤ length := by
  induction run with
  | spent | emptied | gaveUp | unread => exact fun _ _ => nofun
  | broken made =>
      intro length known attempt mem
      rw [List.mem_singleton.mp mem]
      exact made.steady strict length known
  | further made presses rest ih =>
      intro length known attempt mem
      have first := made.steady strict length known
      rcases List.mem_cons.mp mem with rfl | later
      · exact first
      · exact Nat.le_trans (ih _ rfl attempt later) first

theorem ClearingRun.steady (run : ClearingRun field mode left previous answer attempts closing)
    (strict : mode = .strict) : attempts.Pairwise fun before after => after.length ≤ before.length := by
  induction run with
  | spent | emptied | gaveUp | unread => exact .nil
  | broken => exact List.pairwise_singleton _ _
  | further made presses rest ih => exact .cons (rest.length_le_previous strict _ rfl) ih

theorem ClearingRun.settled (run : ClearingRun field mode left previous answer attempts closing) {value : String}
    (reads : ReadsValue field (.ok value) closing) : value = "" ∨ mode = .strict ∧ answer = .error clearFailed := by
  induction run with
  | spent | broken => exact absurd rfl reads.ne_nil
  | emptied _ read => exact .inl (Except.ok.inj (reads.unique read))
  | gaveUp strict => exact .inr ⟨strict, rfl⟩
  | unread _ unread => cases reads.unique unread
  | further _ _ _ ih => exact ih reads

/-- What is typed is bounded by the lengths that were read in the attempts. -/
theorem ClearingRun.typed_le (run : ClearingRun field mode left previous answer attempts closing) {bound : Nat}
    (shorter : ∀ attempt ∈ attempts, attempt.length ≤ bound) :
    (keysTyped (attempts.flatMap Attempt.entries ++ closing)).length ≤ 2 * bound * attempts.length := by
  have typed {later : Nat} {before : Option Nat} {ended : Except Error Unit} {attempt : Attempt}
      (made : attempt.Made field mode later before) (presses : Presses attempt.keys ended attempt.typing)
      (short : attempt.length ≤ bound) : (keysTyped attempt.entries).length ≤ 2 * bound := by
    rw [Attempt.entries, keysTyped_append, made.reads.typesNothing, List.nil_append]
    have most := presses.typed.length_le
    rw [attempt.length_keys] at most
    omega
  induction run with
  | spent => exact Nat.le_refl 0
  | emptied _ reads | gaveUp _ reads | unread _ reads => simp [reads.typesNothing]
  | broken made presses => simpa using typed made presses (shorter _ List.mem_cons_self)
  | further made presses rest ih =>
      have here := typed made presses (shorter _ List.mem_cons_self)
      have there := ih fun attempt mem => shorter attempt (List.mem_cons_of_mem _ mem)
      rw [List.flatMap_cons, List.append_assoc, keysTyped_append, List.length_append, List.length_cons, Nat.mul_succ]
      omega

theorem ClearingRun.effort (run : ClearingRun field mode left previous answer attempts closing) :
    LoopEffort field mode left answer attempts closing := by
  obtain ⟨all, strictly⟩ := run.length_le
  constructor
  case asks =>
    rcases Nat.eq_zero_or_pos left with none | some
    · cases mode with
      | lenient => exact .inl (run.asks_le (.inr rfl))
      | strict => exact .inr ⟨rfl, none, List.length_eq_zero_iff.mp (Nat.le_zero.mp (none ▸ all))⟩
    · exact .inl (run.asks_le (.inl some))
  case thorough => exact run.thorough
  case steady => exact run.steady
  case settled => exact fun _ => run.settled
  case bounded =>
    intro strict
    have shorter : ∀ attempt ∈ attempts, attempt.length ≤ firstLength attempts := by
      cases attempts with
      | nil => exact nofun
      | cons first later =>
          intro attempt mem
          rcases List.mem_cons.mp mem with rfl | after
          · exact Nat.le_refl _
          · exact List.rel_of_pairwise_cons (run.steady strict) after
    exact Nat.le_trans (run.typed_le shorter) (Nat.mul_le_mul_left _ (strictly strict))

end Run

/-! ## The tiers before the loop -/

/-- The first two tiers, which clear and then send all the deletion keys in one go. The answer is whether
something is left for the key-by-key loop. -/
def Browser.clearAtOnce (browser : Browser State) (field : Target) : Action State Bool := do
  let initial ← browser.valueOf field
  if initial.isEmpty then return false
  let element ← browser.locate field
  browser.clear element
  let value ← browser.valueOf field
  if value.isEmpty then return false
  let _ ← browser.sendKeysTo (deletionKeys value.toList.length) field
  let left ← browser.valueOf field
  return !left.isEmpty

theorem clearInput_eq (mode : ClearMode) (settings : ClearSettings) :
    browser.clearInput field mode settings =
      browser.clearAtOnce field >>= fun left =>
        if left then browser.clearByKey field mode (mode.tries settings) none else pure () := by
  unfold Browser.clearInput Browser.clearAtOnce
  rw [bind_assoc]
  refine bind_congr fun initial => ?_
  cases initial.isEmpty with
  | true => rfl
  | false =>
      simp only [Bool.false_eq_true, if_false, bind_assoc]
      refine bind_congr fun element => bind_congr fun _ => bind_congr fun value => ?_
      cases value.isEmpty with
      | true => rfl
      | false =>
          simp only [Bool.false_eq_true, if_false, bind_assoc, pure_bind]
          refine bind_congr fun _ => bind_congr fun left => ?_
          cases left.isEmpty <;> rfl

/-- The loop is only entered when something is left. -/
theorem outcome_clearInput (mode : ClearMode) (settings : ClearSettings) {state middle : State}
    {start : Except Error Bool} (begun : (browser.clearAtOnce field).outcome state = (start, middle)) :
    start = .ok true ∧ (browser.clearInput field mode settings).outcome state =
        (browser.clearByKey field mode (mode.tries settings) none).outcome middle ∨
      start ≠ .ok true ∧ ((browser.clearInput field mode settings).outcome state).2 = middle := by
  rw [clearInput_eq]
  cases start with
  | error error => exact .inr ⟨nofun, by rw [outcome_bind_of_error begun]⟩
  | ok left =>
      rw [outcome_bind_of_ok begun]
      cases left with
      | false => exact .inr ⟨nofun, rfl⟩
      | true => exact .inl ⟨rfl, rfl⟩

/-- The action types at most this often. -/
def TypesAtMost (count : Nat) (action : Action (State × List Entry) Value) : Prop :=
  Notes action fun _ entries => (keysTyped entries).length ≤ count

theorem TypesAtMost.pure {count : Nat} {value : Value} :
    TypesAtMost count (pure value : Action (State × List Entry) Value) :=
  Notes.pure (Nat.zero_le count)

theorem TypesAtMost.bind {first rest count : Nat} {action : Action (State × List Entry) Value}
    {next : Value → Action (State × List Entry) Result} (types : TypesAtMost first action)
    (total : first + rest = count) (later : ∀ value, TypesAtMost rest (next value)) :
    TypesAtMost count (action >>= next) := by
  refine Notes.bind types (fun _ _ typed => ?_) fun value added typed => ?_
  · exact Nat.le_trans typed (total ▸ Nat.le_add_right first rest)
  · refine (later value).weaken fun _ more typedThen => ?_
    rw [keysTyped_append, List.length_append, ← total]
    exact Nat.add_le_add typed typedThen

theorem clearAtOnce_typesAtMost : TypesAtMost 1 (browser.journaled.clearAtOnce field) := by
  have quiet {entries : List Entry} (nothing : keysTyped entries = []) : (keysTyped entries).length ≤ 0 := by
    rw [nothing]
    exact Nat.le_refl 0
  have reads : TypesAtMost 0 (browser.journaled.valueOf field) :=
    (valueOf_notes browser field).weaken fun _ _ reads => quiet reads.typesNothing
  have locates : TypesAtMost 0 (browser.journaled.locate field) :=
    (locate_notes browser field).weaken fun _ _ => quiet
  have clears (handle : Handle) : TypesAtMost 0 (browser.journaled.clear handle) :=
    (Notes.of_noting (fun answer => Entry.clear handle answer) (browser.clear handle)).weaken
      fun _ _ ends => quiet (by rw [ends]; rfl)
  have types (keys : String) : TypesAtMost 1 (browser.journaled.sendKeysTo keys field) :=
    (sendKeysTo_notes browser field keys).weaken fun _ _ presses => presses.typed.length_le
  apply reads.bind (rfl : 0 + 1 = 1)
  intro initial
  cases initial.isEmpty with
  | true => exact .pure
  | false =>
      apply locates.bind (rfl : 0 + 1 = 1)
      intro element
      apply (clears element).bind (rfl : 0 + 1 = 1)
      intro _
      apply reads.bind (rfl : 0 + 1 = 1)
      intro value
      cases value.isEmpty with
      | true => exact .pure
      | false =>
          apply (types _).bind (rfl : 1 + 0 = 1)
          intro _
          exact reads.bind (rfl : 0 + 0 = 0) fun _ => .pure

/-- Clearing is seen here in a journal of its calls, and goes as it does without one. Whatever the browser
answers: before the key-by-key loop something is typed at most once. The loop is only entered when the value was
read as not empty, and then runs its course: every value that it reads is typed on in an attempt of its own, is
empty, or makes strict clearing give up. It has no more attempts than it may have, and the effort of each is
limited. So strict clearing types at most as often as the number of attempts without the last one and the length
that the loop has read first allow; when there is to be no attempt at all, that is once. -/
theorem clearInput_effort_bounded (mode : ClearMode) (settings : ClearSettings) (state : State) :
    ∃ start middle opening attempts closing,
      let plain := (browser.clearInput field mode settings).outcome state
      let loop := browser.journaled.clearByKey field mode (mode.tries settings) none
      let journal := opening ++ (attempts.flatMap Attempt.entries ++ closing)
      (browser.journaled.clearInput field mode settings).outcome (state, []) = (plain.1, plain.2, journal) ∧
      (browser.journaled.clearAtOnce field).outcome (state, []) = (start, middle, opening) ∧
      (start = .ok true ∧ loop.outcome (middle, opening) = (plain.1, plain.2, journal) ∧
          ClearingRun field mode (mode.tries settings) none plain.1 attempts closing ∧
          LoopEffort field mode (mode.tries settings) plain.1 attempts closing ∨
        start ≠ .ok true ∧ attempts = [] ∧ closing = []) ∧
      (keysTyped opening).length ≤ 1 ∧
      attempts.length ≤ mode.tries settings ∧
      (mode = .strict → (keysTyped journal).length ≤ 1 + 2 * firstLength attempts * (settings.strictTries - 1)) := by
  obtain ⟨answer, same⟩ := (browser.noting_alike id).clearInput field mode settings state (state, []) rfl
  obtain ⟨opening, noted, typed⟩ := clearAtOnce_typesAtMost browser field state []
  cases begun : (browser.journaled.clearAtOnce field).outcome (state, []) with
  | mk start whole =>
      obtain ⟨middle, journal⟩ := whole
      rw [begun] at noted
      obtain rfl : journal = opening := noted
      refine ⟨start, middle, journal, ?_⟩
      rcases outcome_clearInput browser.journaled field mode settings begun with
        ⟨entered, looped⟩ | ⟨finished, ended⟩
      · obtain ⟨_, grown, attempts, closing, rfl, run⟩ :=
          clearByKey_runsCourse browser field mode (mode.tries settings) none middle journal
        rw [looped] at answer same
        have outcome :
            (browser.journaled.clearByKey field mode (mode.tries settings) none).outcome (middle, journal) =
              (_, _, _) := Prod.ext answer.symm (Prod.ext same grown)
        refine ⟨attempts, closing, looped.trans outcome, rfl,
          .inl ⟨entered, outcome, answer ▸ run, answer ▸ run.effort⟩, typed, run.length_le.1, fun strict => ?_⟩
        have bounded := run.effort.bounded strict
        rw [strict] at bounded
        rw [keysTyped_append, List.length_append]
        exact Nat.add_le_add typed bounded
      · rw [ended] at same
        refine ⟨[], [], Prod.ext answer.symm ?_, rfl, .inr ⟨finished, rfl, rfl⟩, typed, Nat.zero_le _, fun _ => ?_⟩
        · rw [ended]
          exact Prod.ext same (List.append_nil journal).symm
        · simpa using Nat.le_trans typed (Nat.le_add_right 1 _)

end Locator
