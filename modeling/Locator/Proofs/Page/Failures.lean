import Locator.Proofs.Page.Clicks
import Locator.Proofs.Page.Scrolling

/-!
# Calls that fail

A call to a page fails because nothing matches or because an element is stale. It then leaves everything but the
log as it was, and adds to the log the entry of its own at most. The log grows otherwise too, one entry for each
call at most, and what only looks at elements is never in it.
-/

namespace Locator

set_option autoImplicit false

/-- An operation of a browser with its arguments, by the type of its answer. -/
inductive BrowserOperation : Type → Type where
  | find (path : Path) : BrowserOperation Handle
  | findAll (path : Path) : BrowserOperation (List Handle)
  | isPresent (path : Path) : BrowserOperation Bool
  | count (path : Path) : BrowserOperation Nat
  | click (handle : Handle) : BrowserOperation Unit
  | sendKeys (handle : Handle) (keys : String) : BrowserOperation Unit
  | clear (handle : Handle) : BrowserOperation Unit
  | attribute? (handle : Handle) (name : String) : BrowserOperation (Option String)
  | rect (handle : Handle) : BrowserOperation Rect
  | isDisplayed (handle : Handle) : BrowserOperation Bool
  | scrollBy (handle : Handle) (dx dy : Int) : BrowserOperation Unit
  | scrollTo (handle : Handle) (x y : Option Int) : BrowserOperation Unit
  | scrollOffset (handle : Handle) : BrowserOperation Offset
  | setImplicitTimeout (milliseconds : Nat) : BrowserOperation Unit
  | implicitTimeout : BrowserOperation Nat

namespace BrowserOperation

variable {State Value : Type}

def run (browser : Browser State) : BrowserOperation Value → Action State Value
  | .find path => browser.find path
  | .findAll path => browser.findAll path
  | .isPresent path => browser.isPresent path
  | .count path => browser.count path
  | .click handle => browser.click handle
  | .sendKeys handle keys => browser.sendKeys handle keys
  | .clear handle => browser.clear handle
  | .attribute? handle name => browser.attribute? handle name
  | .rect handle => browser.rect handle
  | .isDisplayed handle => browser.isDisplayed handle
  | .scrollBy handle dx dy => browser.scrollBy handle dx dy
  | .scrollTo handle x y => browser.scrollTo handle x y
  | .scrollOffset handle => browser.scrollOffset handle
  | .setImplicitTimeout milliseconds => browser.setImplicitTimeout milliseconds
  | .implicitTimeout => Action.look browser.implicitTimeout

/-- The entry of its own that the operation has in the log of a page. -/
def call? : BrowserOperation Value → Option Call
  | .find path => some (.find path.toXPath)
  | .findAll path | .isPresent path | .count path => some (.findAll path.toXPath)
  | .click handle => some (.click handle)
  | .sendKeys handle keys => some (.sendKeys handle keys)
  | .clear handle => some (.clear handle)
  | .scrollBy handle dx dy => some (.scrollBy handle dx dy)
  | .scrollTo handle x y => some (.scrollTo handle x y)
  | .setImplicitTimeout milliseconds => some (.setImplicitTimeout milliseconds)
  | .attribute? _ _ | .rect _ | .isDisplayed _ | .scrollOffset _ | .implicitTimeout => none

/-- The element that the operation is done to. -/
def handle? : BrowserOperation Value → Option Handle
  | .click handle | .sendKeys handle _ | .clear handle | .attribute? handle _ | .rect handle
  | .isDisplayed handle | .scrollBy handle _ _ | .scrollTo handle _ _ | .scrollOffset handle => some handle
  | .find _ | .findAll _ | .isPresent _ | .count _ | .setImplicitTimeout _ | .implicitTimeout => none

/-- Why an operation fails on a page: nothing matches, or the element is stale. -/
inductive FailsOn (page : Page) : {Value : Type} → BrowserOperation Value → Error → Prop where
  | missing (path : Path) (none : page.resolve path.toXPath = []) :
      FailsOn page (.find path) ⟨.notFound, path.toXPath⟩
  | stale {Value : Type} (operation : BrowserOperation Value) (handle : Handle)
      (uses : operation.handle? = some handle) (gone : page.elements.get? handle.id = none) :
      FailsOn page operation ⟨.driver, "stale element " ++ handle.id⟩

/-- How an operation may leave a page. -/
inductive Leaves (operation : BrowserOperation Value) (page : Page) : Except Error Value × Page → Prop where
  | answered (value : Value) (after : Page) (rules : after.rules = page.rules)
      (log : after.log = operation.call?.toList ++ page.log) : Leaves operation page (.ok value, after)
  /-- Nothing has changed but the log. -/
  | failed (error : Error) (calls : List Call) (fails : FailsOn page operation error)
      (own : calls = [] ∨ calls = operation.call?.toList) :
      Leaves operation page (.error error, { page with log := calls ++ page.log })

end BrowserOperation

namespace Page

open BrowserOperation

variable {page : Page} {handle : Handle}

/-! ## What one operation leaves -/

theorem element?_eq_error_iff {error : Error} :
    page.element? handle = .error error ↔
      page.elements.get? handle.id = none ∧ error = ⟨.driver, "stale element " ++ handle.id⟩ := by
  unfold element?
  cases page.elements.get? handle.id <;> simp [eq_comm]

theorem modify_eq_map (page : Page) (handle : Handle) (change : Element → Element) :
    page.modify handle change = (page.element? handle).map fun element => page.add handle (change element) := by
  unfold modify
  cases page.element? handle <;> rfl

theorem setOffset_eq_map (page : Page) (handle : Handle) (offset : Offset) :
    page.setOffset handle offset =
      (page.element? handle).map fun element => page.moved handle (element.clampOffset offset) := by
  unfold setOffset
  cases page.element? handle <;> rfl

theorem failsOn_of_element? {Value : Type} {operation : BrowserOperation Value} {error : Error}
    (uses : operation.handle? = some handle) (failed : page.element? handle = .error error) :
    FailsOn page operation error := by
  obtain ⟨gone, rfl⟩ := element?_eq_error_iff.mp failed
  exact .stale operation handle uses gone

theorem leaves_onElement {Value : Type} {operation : BrowserOperation Value} (uses : operation.handle? = some handle)
    (silent : operation.call? = none) (read : Page → Element → Value) :
    operation.Leaves page ((onElement handle read).outcome page) := by
  rw [outcome_onElement_map]
  cases found : page.element? handle with
  | error error => exact .failed error [] (failsOn_of_element? uses found) (.inl rfl)
  | ok element => exact .answered _ page rfl (by rw [silent]; rfl)

/-- A recorded change that needs its element and then cannot fail any more: no half of it is left. -/
theorem leaves_recorded {operation : BrowserOperation Unit} {call : Call} {change : Page → Except Error Page}
    (own : operation.call? = some call) (uses : operation.handle? = some handle) (place : Page → Element → Page)
    (changes : ∀ page, change page = (page.element? handle).map (place page))
    (keeps : ∀ page element, (place page element).rules = page.rules ∧ (place page element).log = page.log) :
    operation.Leaves page ((recorded call change).outcome page) := by
  have changed := changes (page.record call)
  unfold recorded Action.outcome
  cases found : (page.record call).element? handle with
  | error error =>
      rw [found] at changed
      simp only [ExceptT.run, StateT.run, changed, Except.map]
      exact .failed error [call] (failsOn_of_element? uses found) (.inr (by rw [own]; rfl))
  | ok element =>
      rw [found] at changed
      simp only [ExceptT.run, StateT.run, changed, Except.map]
      obtain ⟨rules, log⟩ := keeps (page.record call) element
      exact .answered () _ rules (by rw [own]; exact log)

end Page

namespace BrowserOperation

open Page

variable {Value : Type}

theorem leaves (operation : BrowserOperation Value) (page : Page) :
    operation.Leaves page ((operation.run Page.browser).outcome page) := by
  cases operation with
  | find path =>
      cases found : page.resolve path.toXPath with
      | nil =>
          rw [run, outcome_find_of_nil found]
          exact .failed _ [.find path.toXPath] (.missing path found) (.inr rfl)
      | cons first others =>
          rw [run, outcome_find_of_cons found]
          exact .answered first _ rfl rfl
  | findAll path => exact .answered (page.resolve path.toXPath) (page.record _) rfl rfl
  | isPresent path => exact .answered (!(page.resolve path.toXPath).isEmpty) (page.record _) rfl rfl
  | count path => exact .answered (page.resolve path.toXPath).length (page.record _) rfl rfl
  | click handle =>
      cases live : page.elements.get? handle.id with
      | none =>
          rw [run, outcome_click_of_stale live]
          exact .failed _ [] (.stale _ handle rfl live) (.inl rfl)
      | some element =>
          rw [run, outcome_click live]
          exact .answered () (page.record _) rfl rfl
  | sendKeys handle keys =>
      exact leaves_recorded rfl rfl _ (fun page => page.modify_eq_map handle (·.receive keys)) fun _ _ => ⟨rfl, rfl⟩
  | clear handle =>
      exact leaves_recorded rfl rfl _ (fun page => page.modify_eq_map handle Element.cleared) fun _ _ => ⟨rfl, rfl⟩
  | attribute? handle name => exact leaves_onElement rfl rfl _
  | rect handle => exact leaves_onElement rfl rfl _
  | isDisplayed handle => exact leaves_onElement rfl rfl _
  | scrollBy handle dx dy =>
      exact leaves_recorded rfl rfl _
        (fun page => page.setOffset_eq_map handle
          ⟨wrapped ((page.offset handle).x + dx), wrapped ((page.offset handle).y + dy)⟩)
        fun _ _ => ⟨rfl, rfl⟩
  | scrollTo handle x y =>
      exact leaves_recorded rfl rfl _ (fun page => page.setOffset_eq_map handle (placed (page.offset handle) x y))
        fun _ _ => ⟨rfl, rfl⟩
  | scrollOffset handle => exact leaves_onElement rfl rfl _
  | setImplicitTimeout milliseconds => exact .answered () _ rfl rfl
  | implicitTimeout => exact .answered page.implicitTimeout page rfl rfl

end BrowserOperation

namespace Page

open BrowserOperation

variable {page after : Page} {Value : Type}

/-! ## The log -/

theorem history_of_log {calls : List Call} (log : after.log = calls ++ page.log) :
    after.history = page.history ++ (calls.map Call.text).reverse := by
  unfold history
  rw [log, List.map_append, List.reverse_append]

theorem history_of_entry {entered : Option Call} (log : after.log = entered.toList ++ page.log) :
    after.history = page.history ++ entered.toList.map Call.text := by
  rw [history_of_log log]
  cases entered <;> rfl

/-- One operation makes one entry in the log at most. -/
theorem history_after (page : Page) (operation : BrowserOperation Value) :
    ∃ calls : List Call, calls.Sublist operation.call?.toList ∧
      ((operation.run browser).outcome page).2.history = page.history ++ calls.map Call.text := by
  have leaves := operation.leaves page
  generalize (operation.run browser).outcome page = ended at leaves ⊢
  cases leaves with
  | answered value after _ log => exact ⟨_, .refl _, history_of_entry log⟩
  | failed error calls _ own =>
      obtain rfl | rfl := own
      · exact ⟨[], List.nil_sublist _, by simp [history]⟩
      · exact ⟨_, .refl _, history_of_entry rfl⟩

/-- The page after operations one after the other, whatever each of them ends with. -/
def afterAll (page : Page) (operations : List (Σ Value : Type, BrowserOperation Value)) : Page :=
  operations.foldl (fun page operation => ((operation.2.run browser).outcome page).2) page

theorem history_afterAll (operations : List (Σ Value : Type, BrowserOperation Value)) (page : Page) :
    ∃ calls : List Call, calls.Sublist (operations.flatMap (·.2.call?.toList)) ∧
      (page.afterAll operations).history = page.history ++ calls.map Call.text := by
  induction operations generalizing page with
  | nil => exact ⟨[], List.nil_sublist _, (List.append_nil _).symm⟩
  | cons operation operations ih =>
      obtain ⟨first, made, history⟩ := page.history_after operation.2
      obtain ⟨later, inOrder, laterHistory⟩ := ih ((operation.2.run browser).outcome page).2
      refine ⟨first ++ later, ?_, ?_⟩
      · rw [List.flatMap_cons]
        exact made.append inOrder
      · rw [List.map_append, ← List.append_assoc, ← history]
        exact laterHistory

/-! ## Changes that are no operations -/

/-- What is done to a page without its browser. -/
inductive Arranged (page : Page) : Page → Prop where
  | add (handle : Handle) (element : Element) : Arranged page (page.add handle element)
  | registerXPath (xpath : String) (rule : Rule) : Arranged page (page.registerXPath xpath rule)
  | unregister (path : Path) : Arranged page (page.unregister path)
  | setValue (handle : Handle) (value : String) : Arranged page (page.setValue handle value)
  | clearHistory : Arranged page page.clearHistory

theorem Change.arranged_or_called (change : Change page after) :
    page.Arranged after ∨
      ∃ (Value : Type) (operation : BrowserOperation Value), after = ((operation.run browser).outcome page).2 := by
  cases change with
  | add handle element _ => exact .inl (.add handle element)
  | registerXPath xpath rule => exact .inl (.registerXPath xpath rule)
  | unregister path => exact .inl (.unregister path)
  | setValue handle value => exact .inl (.setValue handle value)
  | clearHistory => exact .inl .clearHistory
  | find path => exact .inr ⟨_, .find path, rfl⟩
  | findAll path => exact .inr ⟨_, .findAll path, rfl⟩
  | click handle => exact .inr ⟨_, .click handle, rfl⟩
  | sendKeys handle keys => exact .inr ⟨_, .sendKeys handle keys, rfl⟩
  | clear handle => exact .inr ⟨_, .clear handle, rfl⟩
  | readAttribute handle name => exact .inr ⟨_, .attribute? handle name, rfl⟩
  | rect handle => exact .inr ⟨_, .rect handle, rfl⟩
  | isDisplayed handle => exact .inr ⟨_, .isDisplayed handle, rfl⟩
  | scrollBy handle dx dy => exact .inr ⟨_, .scrollBy handle dx dy, rfl⟩
  | scrollTo handle x y => exact .inr ⟨_, .scrollTo handle x y, rfl⟩
  | scrollOffset handle => exact .inr ⟨_, .scrollOffset handle, rfl⟩
  | setImplicitTimeout milliseconds => exact .inr ⟨_, .setImplicitTimeout milliseconds, rfl⟩

theorem Arranged.history (arranged : page.Arranged after) :
    after = page.clearHistory ∨ after.history = page.history := by
  cases arranged with
  | add handle element => exact .inr rfl
  | registerXPath xpath rule => exact .inr rfl
  | unregister path => exact .inr rfl
  | setValue handle value =>
      right
      unfold Page.setValue
      split <;> rfl
  | clearHistory => exact .inl rfl

theorem Change.history (change : Change page after) :
    after = page.clearHistory ∨ page.history <+: after.history := by
  obtain arranged | ⟨Value, operation, rfl⟩ := change.arranged_or_called
  · exact arranged.history.imp_right fun same => ⟨[], by rw [List.append_nil, same]⟩
  · obtain ⟨calls, _, history⟩ := page.history_after operation
    exact .inr ⟨_, history.symm⟩

/-- A call that fails does so because nothing matches or because its element is stale, and nothing has changed
after it but the log: the elements with their values and scripts, the offsets, the rules and the implicit timeout
are as before, and the log has the entry of the call or no new one. A call that answers makes its entry, looking
at an element makes none; so the log after any calls is the log before them with entries of these, in their order.
Nothing takes entries away but clearing the log. -/
theorem failures_touch_log_only (page : Page) :
    (∀ (Value : Type) (operation : BrowserOperation Value) (error : Error) (after : Page),
      (operation.run browser).outcome page = (.error error, after) →
      FailsOn page operation error ∧
      after.elements = page.elements ∧ after.offsets = page.offsets ∧ after.rules = page.rules ∧
      after.implicitTimeout = page.implicitTimeout ∧
      (after.history = page.history ∨
        after.history = page.history ++ operation.call?.toList.map Call.text)) ∧
    (∀ (Value : Type) (operation : BrowserOperation Value) (value : Value) (after : Page),
      (operation.run browser).outcome page = (.ok value, after) →
      after.history = page.history ++ operation.call?.toList.map Call.text) ∧
    (∀ handle name, ((browser.attribute? handle name).outcome page).2 = page) ∧
    (∀ handle, ((browser.rect handle).outcome page).2 = page ∧
      ((browser.isDisplayed handle).outcome page).2 = page ∧
      ((browser.scrollOffset handle).outcome page).2 = page) ∧
    (∀ operations, ∃ calls : List Call, calls.Sublist (operations.flatMap (·.2.call?.toList)) ∧
      (page.afterAll operations).history = page.history ++ calls.map Call.text) ∧
    ∀ after, Change page after → after = page.clearHistory ∨ page.history <+: after.history := by
  refine ⟨?failed, ?answered, ?read, ?looked, fun operations => page.history_afterAll operations,
    fun after change => change.history⟩
  case failed =>
    intro Value operation error after ended
    have leaves := operation.leaves page
    rw [ended] at leaves
    cases leaves with
    | failed _ calls fails own =>
        refine ⟨fails, rfl, rfl, rfl, rfl, ?_⟩
        obtain rfl | rfl := own
        · exact .inl rfl
        · exact .inr (history_of_entry rfl)
  case answered =>
    intro Value operation value after ended
    have leaves := operation.leaves page
    rw [ended] at leaves
    cases leaves with
    | answered _ _ _ log => exact history_of_entry log
  case read =>
    intro handle name
    exact congrArg Prod.snd (outcome_onElement_map page handle _)
  case looked =>
    intro handle
    exact ⟨congrArg Prod.snd (outcome_onElement_map page handle _),
      congrArg Prod.snd (outcome_onElement_map page handle _),
      congrArg Prod.snd (outcome_onElement_map page handle _)⟩

/-- A page with a field that answers keys by a script, after the first keys. -/
def scriptedPage : Page :=
  let blank : Page := {}
  let page := blank.add ⟨"field"⟩ { keys := .scripted ["1", "12"] }
  ((browser.sendKeys ⟨"field"⟩ "1").outcome page).2

theorem failures_touch_log_only_scripted :
    let ended := (browser.sendKeys ⟨"gone"⟩ "2").outcome scriptedPage
    ended.1 = .error ⟨.driver, "stale element gone"⟩ ∧
    ended.2.elements.get? "field" = some { value := "1", keys := .scripted ["12"] } ∧
    ended.2.history = ["send_keys:field:1", "send_keys:gone:2"] := by
  intro ended
  have stale : ended.1 = .error ⟨.driver, "stale element gone"⟩ := by decide
  obtain ⟨_, elements, _⟩ := (failures_touch_log_only scriptedPage).1 Unit (.sendKeys ⟨"gone"⟩ "2") _ ended.2
    (Prod.ext stale rfl)
  refine ⟨stale, ?_, by decide⟩
  rw [elements]
  decide

end Page

end Locator
