import Locator.Proofs.Browser.Conclusions
import Locator.Proofs.Interaction.Clearing

/-!
# Typing on a page

What keys leave of a value, and what the steps that interactions with an input are made of do on a page: each
of them changes nothing but the element of the input and the log.
-/

namespace Locator

set_option autoImplicit false

/-! ## What keys leave -/

/-- A text that is typed as it stands: none of its characters is a key that edits. -/
def IsPlain (text : String) : Prop :=
  ∀ char ∈ text.toList, char ≠ Key.backspace ∧ char ≠ Key.delete ∧ char ≠ Key.enter

instance (text : String) : Decidable (IsPlain text) :=
  List.decidableBAll _ text.toList

/-- A text without its last `count` characters, or without all of them if there are fewer. -/
def withoutLast (count : Nat) (text : String) : String :=
  String.ofList (text.toList.take (text.toList.length - count))

theorem foldl_typeKey_backspace (value : List Char) (count : Nat) :
    (List.replicate count Key.backspace).foldl typeKey value = value.take (value.length - count) := by
  induction count generalizing value with
  | zero => simp
  | succ count ih =>
      rw [List.replicate_succ, List.foldl_cons, typeKey, if_pos rfl, ih, List.dropLast_eq_take, List.take_take,
        List.length_take]
      congr 1
      omega

theorem typeKey_delete (value : List Char) : typeKey value Key.delete = value := by
  rw [typeKey, if_neg (by decide), if_pos (.inl rfl)]

theorem typeKey_enter (value : List Char) : typeKey value Key.enter = value := by
  rw [typeKey, if_neg (by decide), if_pos (.inr rfl)]

theorem foldl_typeKey_delete (value : List Char) (count : Nat) :
    (List.replicate count Key.delete).foldl typeKey value = value := by
  induction count with
  | zero => rfl
  | succ count ih => rw [List.replicate_succ, List.foldl_cons, typeKey_delete, ih]

theorem foldl_typeKey_plain (value text : List Char)
    (plain : ∀ char ∈ text, char ≠ Key.backspace ∧ char ≠ Key.delete ∧ char ≠ Key.enter) :
    text.foldl typeKey value = value ++ text := by
  induction text generalizing value with
  | nil => exact (List.append_nil value).symm
  | cons char text ih =>
      obtain ⟨notBackspace, notDelete, notEnter⟩ := plain char List.mem_cons_self
      have typed : typeKey value char = value ++ [char] := by
        rw [typeKey, if_neg notBackspace, if_neg (not_or.mpr ⟨notDelete, notEnter⟩)]
      have rest := ih (value ++ [char]) fun other mem => plain other (List.mem_cons_of_mem _ mem)
      rw [List.foldl_cons, typed, rest, List.append_assoc, List.singleton_append]

/-- The backspace keys take the last characters away, and the delete keys that follow do nothing. -/
theorem typeKeys_deletionKeys (value : String) (length : Nat) :
    typeKeys value (deletionKeys length) = withoutLast length value := by
  rw [withoutLast, typeKeys, deletionKeys, String.toList_ofList, List.foldl_append, foldl_typeKey_backspace,
    foldl_typeKey_delete]

theorem typeKeys_deletionKeys_self (value : String) : typeKeys value (deletionKeys value.toList.length) = "" := by
  rw [typeKeys_deletionKeys, withoutLast, Nat.sub_self, List.take_zero, String.ofList_nil]

theorem typeKeys_plain (value : String) {text : String} (plain : IsPlain text) :
    typeKeys value text = value ++ text := by
  rw [typeKeys, foldl_typeKey_plain _ _ plain, String.ofList_append, String.ofList_toList, String.ofList_toList]

theorem typeKeys_enter (value : String) : typeKeys value (String.singleton Key.enter) = value := by
  rw [typeKeys, String.toList_singleton, List.foldl_cons, typeKey_enter, List.foldl_nil, String.ofList_toList]

namespace Element

variable {element : Element}

theorem receive_of_editable (editable : element.keys = .editable) (keys : String) :
    element.receive keys = { element with value := typeKeys element.value keys } := by
  unfold receive
  rw [editable]

theorem receive_of_frozen (frozen : element.keys = .frozen) (keys : String) : element.receive keys = element := by
  unfold receive
  rw [frozen]

theorem cleared_of_clears (clears : element.clears = true) : element.cleared = { element with value := "" } :=
  if_pos clears

theorem cleared_of_not_clears (ignores : element.clears = false) : element.cleared = element :=
  if_neg (by rw [ignores]; exact Bool.false_ne_true)

end Element

/-! ## The recorded calls that type -/

/-- How often the call types. -/
def Call.typings : Call → Nat
  | .sendKeys _ _ => 1
  | _ => 0

theorem Call.isPrefixOf_text (call : Call) :
    ("send_keys" ++ ":").toList.isPrefixOf call.text.toList = (call.typings == 1) := by
  cases call <;> simp [Call.text, Call.method, Call.typings, List.isPrefixOf]

namespace Page

/-- How often something was typed, going by the recorded calls. -/
def typings (page : Page) : Nat :=
  (page.callsTo "send_keys").length

theorem typings_record (page : Page) (call : Call) : (page.record call).typings = page.typings + call.typings := by
  simp only [typings, callsTo, history, record, List.map_cons, List.reverse_cons, List.filter_append,
    List.length_append, List.filter_cons, List.filter_nil, Call.isPrefixOf_text]
  cases call <;> rfl

/-! ## Steps that change one element -/

/-- A page that differs from the one before in one element and in the log, where `typed` calls that type have
been added. -/
structure Holds (page : Page) (handle : Handle) (element : Element) (typed : Nat) (after : Page) : Prop where
  here : after.elements.get? handle.id = some element
  others : ∀ id, id ≠ handle.id → after.elements.get? id = page.elements.get? id
  offsets : after.offsets = page.offsets
  rules : after.rules = page.rules
  timeout : after.implicitTimeout = page.implicitTimeout
  typings : after.typings = page.typings + typed

variable {page : Page} {handle : Handle} {element : Element} {typed : Nat} {field : Target}

theorem Holds.start (live : page.elements.get? handle.id = some element) : page.Holds handle element 0 page :=
  ⟨live, fun _ _ => rfl, rfl, rfl, rfl, rfl⟩

theorem Holds.record {after : Page} (holds : page.Holds handle element typed after) (call : Call) :
    page.Holds handle element (typed + call.typings) (after.record call) where
  here := holds.here
  others := holds.others
  offsets := holds.offsets
  rules := holds.rules
  timeout := holds.timeout
  typings := by rw [typings_record, holds.typings, Nat.add_assoc]

theorem Holds.add {after : Page} (holds : page.Holds handle element typed after) (changed : Element) :
    page.Holds handle changed typed (after.add handle changed) where
  here := by rw [Page.add, Keyed.get?_insert, if_pos rfl]
  others id other := by rw [Page.add, Keyed.get?_insert, if_neg other.symm, holds.others id other]
  offsets := holds.offsets
  rules := holds.rules
  timeout := holds.timeout
  typings := holds.typings

/-- What a path finds depends on the rules and on how the page is scrolled. -/
theorem Holds.located {after : Page} (holds : page.Holds handle element typed after) (field : Target) :
    after.located field = page.located field := by
  cases field with
  | handle handle => rfl
  | path path =>
      have windows : after.windowHolds = page.windowHolds := by
        funext window
        simp only [windowHolds, Page.offset, holds.offsets]
      have resolved : after.resolve path.toXPath = page.resolve path.toXPath := by
        have applies : after.applies = page.applies := by
          funext rule
          rw [Page.applies, Page.applies, windows]
        rw [resolve, resolve, holds.rules, applies]
      rw [Page.located, Page.located, resolved]

section Steps

variable {start : Page}

theorem ends_locate (found : start.located field = .ok handle) :
    Action.Ends (start.Holds handle element typed) (browser.locate field) (.ok handle)
      (start.Holds handle element typed) := by
  intro page holds
  cases field with
  | handle known =>
      obtain rfl : known = handle := Except.ok.inj found
      exact ⟨page, rfl, holds⟩
  | path path =>
      have matched : page.located (.path path) = .ok handle := (holds.located _).trans found
      unfold located at matched
      cases resolved : page.resolve path.toXPath with
      | nil => simp [resolved] at matched
      | cons first others =>
          simp only [resolved, Except.ok.injEq] at matched
          subst matched
          exact ⟨_, outcome_find_of_cons resolved, holds.record (.find path.toXPath)⟩

theorem ends_modify (call : Call) (change : Element → Element) :
    Action.Ends (start.Holds handle element typed) (recorded call fun page => page.modify handle change) (.ok ())
      (start.Holds handle (change element) (typed + call.typings)) := by
  intro page holds
  have live : (page.record call).element? handle = .ok element := element?_eq_ok_iff.mpr holds.here
  refine ⟨(page.record call).add handle (change element), ?_, (holds.record call).add _⟩
  unfold recorded Action.outcome modify
  simp only [ExceptT.run, StateT.run, live]

theorem ends_sendKeys (keys : String) :
    Action.Ends (start.Holds handle element typed) (browser.sendKeys handle keys) (.ok ())
      (start.Holds handle (element.receive keys) (typed + 1)) :=
  ends_modify (.sendKeys handle keys) (·.receive keys)

theorem ends_clear :
    Action.Ends (start.Holds handle element typed) (browser.clear handle) (.ok ())
      (start.Holds handle element.cleared typed) :=
  ends_modify (.clear handle) Element.cleared

theorem ends_click :
    Action.Ends (start.Holds handle element typed) (browser.click handle) (.ok ())
      (start.Holds handle element typed) := by
  intro page holds
  have live : page.element? handle = .ok element := element?_eq_ok_iff.mpr holds.here
  refine ⟨page.record (.click handle), ?_, holds.record (.click handle)⟩
  unfold browser click Action.outcome
  simp only [ExceptT.run, StateT.run, live]

variable (found : start.located field = .ok handle)

include found

theorem ends_valueOf :
    Action.Ends (start.Holds handle element typed) (browser.valueOf field) (.ok element.value)
      (start.Holds handle element typed) := by
  have asks : Action.Ends (start.Holds handle element typed) (browser.attribute? handle "value")
      (.ok (some element.value)) (start.Holds handle element typed) :=
    fun page holds => ⟨page, outcome_attribute? holds.here "value", holds⟩
  exact (ends_locate found).bind (asks.bind .pure)

theorem ends_sendKeysTo {keys : String} {received : Element} (receives : element.receive keys = received) :
    Action.Ends (start.Holds handle element typed) (browser.sendKeysTo keys field) (.ok handle)
      (start.Holds handle received (typed + 1)) := by
  subst receives
  exact (ends_locate found).bind ((ends_sendKeys keys).bind .pure)

theorem ends_clickOn :
    Action.Ends (start.Holds handle element typed) (browser.clickOn field) (.ok handle)
      (start.Holds handle element typed) :=
  (ends_locate found).bind (ends_click.bind .pure)

end Steps

/-- A page with one input, which a path for all inputs finds. -/
def oneInput (element : Element) : Page :=
  let empty : Page := {}
  (empty.add ⟨"input"⟩ element).register Html.input { handles := [⟨"input"⟩] }

theorem located_oneInput (element : Element) :
    (oneInput element).located (.path Html.input) = .ok ⟨"input"⟩ := by
  have rules : (oneInput element).rules.get? Html.input.toXPath = some [{ handles := [⟨"input"⟩] }] := by
    show (Keyed.empty.insert Html.input.toXPath _).get? Html.input.toXPath = _
    rw [Keyed.get?_insert, if_pos rfl]
    rfl
  have resolved : (oneInput element).resolve Html.input.toXPath = [⟨"input"⟩] := by
    rw [resolve, rules]
    rfl
  simp only [located, resolved]

end Page

end Locator
