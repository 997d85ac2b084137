import Locator.Interaction.Choice
import Locator.Proofs.Page.Agreement
import Locator.Proofs.Page.Clicks

/-!
# What is clicked in a dropdown

The search for an option ends where some match of it lies in the list. What is clicked then is the first match of the
path, whether it is that one or not.
-/

namespace Locator.Page

open Locator.Action

set_option autoImplicit false

/-- Whether an element is displayed and ends no lower than a list does. Both have to be on the page. -/
def liesIn? (page : Page) (list candidate : Handle) : Except Error Bool := do
  let bounds ← page.element? list
  let element ← page.element? candidate
  return element.displayed && decide ((page.rect element).bottom ≤ (page.rect bounds).bottom)

/-- The element is displayed and ends no lower than the list does. -/
def liesIn (page : Page) (list candidate : Handle) : Bool :=
  (page.liesIn? list candidate).toOption.getD false

/-- The first match of an option that lies in the list. -/
def firstInList (page : Page) (list : Handle) (choice : Path) : Option Handle :=
  page.firstMatch choice fun handle page => page.liesIn list handle

/-- However the list is scrolled, the first match of the option lies in it if any match does. -/
def LedInto (page : Page) (list : Handle) (choice : Path) : Prop :=
  ∀ scrolled, AgreeOff (· = list) page scrolled → ∀ first, scrolled.first? choice = some first →
    (∃ other ∈ scrolled.resolve choice.toXPath, scrolled.liesIn list other = true) →
      scrolled.liesIn list first = true

/-- The page after a search in a list: nothing else has been scrolled, and nothing has been clicked. -/
structure Searched (page : Page) (list : Handle) (after : Page) : Prop where
  content : AgreeOff (· = list) page after
  unclicked : page.Unclicked after

/-- The page after the first match of an option has been clicked as the last thing, while `found` is the first
that lies in the list. -/
structure Selects (page : Page) (list : Handle) (choice : Path) (clicked found : Handle) (after : Page) : Prop where
  content : AgreeOff (· = list) page after
  clicks : ∃ calls, after.log = .click clicked :: calls ++ page.log ∧ ∀ call ∈ calls, call.method ≠ "click"
  first : after.first? choice = some clicked
  accepted : after.firstInList list choice = some found

variable {page after : Page} {list clicked found : Handle} {choice : Path}

theorem liesIn?_of_live {bounds element : Element} (live : page.elements.get? list.id = some bounds)
    (there : page.elements.get? found.id = some element) :
    page.liesIn? list found =
      .ok (element.displayed && decide ((page.rect element).bottom ≤ (page.rect bounds).bottom)) := by
  unfold liesIn?
  rw [element?_eq_ok_iff.mpr live, element?_eq_ok_iff.mpr there]
  rfl

theorem liesIn_iff : page.liesIn list found = true ↔
    ∃ bounds element, page.elements.get? list.id = some bounds ∧ page.elements.get? found.id = some element ∧
      element.displayed = true ∧ (page.rect element).bottom ≤ (page.rect bounds).bottom := by
  constructor
  · intro lies
    unfold liesIn at lies
    cases live : page.element? list with
    | error error => rw [liesIn?, live] at lies; cases lies
    | ok bounds =>
        cases there : page.element? found with
        | error error => rw [liesIn?, live, there] at lies; cases lies
        | ok element =>
            have live := element?_eq_ok_iff.mp live
            have there := element?_eq_ok_iff.mp there
            rw [liesIn?_of_live live there] at lies
            exact ⟨bounds, element, live, there, by simpa [Except.toOption] using lies⟩
  · rintro ⟨bounds, element, live, there, displayed, above⟩
    rw [liesIn, liesIn?_of_live live there, displayed, decide_eq_true above]
    rfl

/-- The question whether an element lies in a list leaves the page as it is. -/
theorem outcome_liesInList (page : Page) (list candidate : Handle) :
    (browser.liesInList list candidate).outcome page = (page.liesIn? list candidate, page) := by
  have boxOf (handle : Handle) :
      (browser.rect handle).outcome page = ((page.element? handle).map page.rect, page) :=
    outcome_onElement_map page handle _
  have shown : (browser.isDisplayed candidate).outcome page =
      ((page.element? candidate).map Element.displayed, page) := outcome_onElement_map page candidate _
  unfold Browser.liesInList
  cases live : page.element? list with
  | error error =>
      rw [outcome_bind_of_error (by rw [boxOf, live]; rfl), liesIn?, live]
      rfl
  | ok bounds =>
      rw [outcome_bind_of_ok (by rw [boxOf, live]; rfl)]
      cases there : page.element? candidate with
      | error error =>
          rw [outcome_bind_of_error (by rw [shown, there]; rfl), liesIn?, live, there]
          rfl
      | ok element =>
          rw [outcome_bind_of_ok (by rw [shown, there]; rfl),
            liesIn?_of_live (element?_eq_ok_iff.mp live) (element?_eq_ok_iff.mp there)]
          cases displayed : element.displayed with
          | false => rfl
          | true =>
              simp only [if_true]
              rw [outcome_bind_of_ok (by rw [boxOf, there]; rfl)]
              rfl

/-! ## The search -/

theorem Searched.record (searched : page.Searched list after) {call : Call} (other : call.method ≠ "click") :
    page.Searched list (after.record call) :=
  ⟨searched.content.recorded, searched.unclicked.record other⟩

theorem recorded_searched {call : Call} {change : Page → Except Error Page} (other : call.method ≠ "click")
    (keeps : ∀ current after, page.Searched list current → change current = .ok after → page.Searched list after) :
    Confined (page.Searched list) (recorded call change) fun _ => True := by
  apply recorded_confined
  · exact fun current searched => searched.record other
  · exact keeps
  · exact fun _ _ _ => trivial

theorem scroll_searched {call : Call} {place : Page → Offset} (other : call.method ≠ "click") :
    Confined (page.Searched list) (recorded call fun page => page.setOffset list (place page)) fun _ => True := by
  apply recorded_searched other
  intro current after searched moves
  obtain ⟨reached, rfl⟩ := setOffset_moves moves
  exact ⟨searched.content.scrolled rfl reached, searched.unclicked⟩

theorem setImplicitTimeout_searched (milliseconds : Nat) :
    Confined (page.Searched list) (browser.setImplicitTimeout milliseconds) fun _ => True := by
  dsimp only [browser]
  apply recorded_searched (by simp [Call.method])
  rintro current after searched ⟨⟩
  exact ⟨⟨searched.content.elements, searched.content.rules, searched.content.offset⟩, searched.unclicked⟩

theorem probe_searched :
    Concludes (page.Searched list) (Scroller.probe browser choice (browser.liesInList list))
      (fun first after => match first with
        | some found => page.Searched list after ∧ after.firstInList list choice = some found
        | none => page.Searched list after) fun _ => page.Searched list := by
  intro current searched
  have looked : page.Searched list (current.record (.findAll choice.toXPath)) :=
    searched.record (by simp [Call.method])
  have accepts := Scroller.firstAccepted_concludes (fun candidate page => outcome_liesInList page list candidate)
    (current.record (.findAll choice.toXPath)) (current.resolve choice.toXPath) _ rfl
  unfold Scroller.probe
  rw [outcome_bind_of_ok (outcome_findAll choice)]
  generalize (Scroller.firstAccepted _ _).outcome _ = ended at accepts ⊢
  obtain ⟨result, after⟩ := ended
  cases result with
  | error error => exact (show after = _ from accepts) ▸ looked
  | ok first =>
      obtain ⟨rfl, rfl⟩ := accepts
      cases first : (current.resolve choice.toXPath).find? _ with
      | none => exact looked
      | some found => exact ⟨looked, first⟩

theorem search_searched (scroller : Scroller) (direction : Direction) (container : scroller.container = list) :
    Concludes (page.Searched list)
      (scroller.untilAccepted browser direction choice (browser.liesInList list))
      (fun found after => page.Searched list after ∧ after.firstInList list choice = some found)
      fun _ => page.Searched list := by
  have places : Confined (page.Searched list) (scroller.place browser direction) fun _ => True :=
    Confined.bind (onElement_confined fun _ _ => trivial) fun offset => .pure _
  have steps : Confined (page.Searched list) (scroller.step browser direction) fun _ => True := by
    subst container
    cases direction with
    | down =>
        dsimp only [Scroller.step, browser]
        exact scroll_searched (by simp [Call.method])
    | right =>
        dsimp only [Scroller.step, browser]
        exact scroll_searched (by simp [Call.method])
  apply Scroller.searchFrom_concludes probe_searched
  · exact places.concludes
  · exact steps.concludes
  · exact fun _ _ _ searched => searched

theorem loweredSearch_searched (scroller : Scroller) (direction : Direction) (container : scroller.container = list)
    (during : Nat) :
    Concludes (page.Searched list)
      (browser.withLoweredTimeout during
        (scroller.untilAccepted browser direction choice (browser.liesInList list)))
      (fun found after => page.Searched list after ∧ after.firstInList list choice = some found)
      fun _ => page.Searched list := by
  have sets (milliseconds : Nat) : Confined (page.Searched list) (browser.setImplicitTimeout milliseconds) _ :=
    setImplicitTimeout_searched milliseconds
  apply (sets during).concludes.withLoweredTimeout (search_searched scroller direction container)
  · exact fun before found after ended => ⟨(sets before).keeps ended.1, ended.2⟩
  · exact fun before _ after searched => (sets before).keeps searched

/-! ## The whole selection -/

theorem outcome_ofTarget_of_first? {path : Path} {container : Handle} (first : page.first? path = some container) :
    (Scroller.ofTarget browser (.path path)).outcome page =
      (.ok { container }, page.record (.find path.toXPath)) := by
  unfold Scroller.ofTarget
  rw [outcome_bind_of_ok (outcome_locate_of_first? first)]
  rfl

theorem clickOn_selects :
    Concludes (fun now => page.Searched list now ∧ now.firstInList list choice = some found)
      (browser.clickOn (.path choice))
      (fun _ after => ∃ clicked, page.Selects list choice clicked found after) fun _ => page.Unclicked := by
  rintro now ⟨searched, accepted⟩
  have looked : page.Unclicked (now.record (.find choice.toXPath)) :=
    searched.unclicked.record (by simp [Call.method])
  rcases clickOn_ends now choice with ⟨error, failed⟩ | ⟨clicked, first, ended⟩
  · rw [failed]
    exact looked
  · rw [ended]
    obtain ⟨calls, log, none⟩ := looked
    refine ⟨clicked, searched.content.recorded.recorded, ⟨calls, ?_, none⟩, first, accepted⟩
    exact congrArg (Call.click clicked :: ·) log

theorem ofTarget_searched (path : Path) :
    Concludes (fun now => now = page) (Scroller.ofTarget browser (.path path))
      (fun scroller after => page.first? path = some scroller.container ∧ page.Searched scroller.container after)
      fun _ => page.Unclicked := by
  rintro now rfl
  have looked : now.Unclicked (now.record (.find path.toXPath)) := (Unclicked.refl now).record (by simp [Call.method])
  cases first : now.first? path with
  | none =>
      have missing : (browser.locate (.path path)).outcome now = _ :=
        outcome_find_of_nil (first?_eq_none_iff.mp first)
      have ended : (Scroller.ofTarget browser (.path path)).outcome now = _ := outcome_bind_of_error missing
      rw [ended]
      exact looked
  | some list =>
      rw [outcome_ofTarget_of_first? first]
      exact ⟨rfl, (AgreeOff.refl now).recorded, looked⟩

/-- The selection once the list has been found. -/
theorem selectFromTop_concludes (scroller : Scroller) (choice : Path) (during : Nat) :
    Concludes (page.Searched scroller.container)
      (do
        scroller.toTopEdge browser
        let _ ← browser.withLoweredTimeout during
          (scroller.untilAccepted browser .down choice (browser.liesInList scroller.container))
        let _ ← browser.clickOn (.path choice))
      (fun _ after => ∃ clicked found, page.Selects scroller.container choice clicked found after)
      fun _ => page.Unclicked := by
  have tops : Confined (page.Searched scroller.container) (scroller.toTopEdge browser) fun _ => True := by
    dsimp only [Scroller.toTopEdge, browser]
    exact scroll_searched (by simp [Call.method])
  have search : Concludes (page.Searched scroller.container)
      (browser.withLoweredTimeout during
        (scroller.untilAccepted browser .down choice (browser.liesInList scroller.container))) _ _ :=
    loweredSearch_searched scroller .down rfl during
  apply (tops.concludes.weaken (fun _ _ searched => searched) fun _ _ searched => searched.unclicked).bind
  intro _
  apply (search.weaken (fun _ _ ended => ended) fun _ _ searched => searched.unclicked).bind
  intro found
  apply clickOn_selects.bind
  intro _
  exact .pure fun after ⟨clicked, selects⟩ => ⟨clicked, found, selects⟩

theorem selectInDropdown_concludes (page : Page) (content choice : Path) (settings : DropdownSettings) :
    Concludes (fun now => now = page) (browser.selectInDropdown content choice settings)
      (fun _ after => ∃ list clicked found, page.first? (Html.parentOf content) = some list ∧
        page.Selects list choice clicked found after)
      fun _ => page.Unclicked := by
  apply (ofTarget_searched (Html.parentOf content)).bind
  intro scroller
  apply Concludes.given (page.first? (Html.parentOf content) = some scroller.container) fun _ ended => ended.1
  intro listed
  have selects : Concludes (page.Searched scroller.container) _ _ _ :=
    selectFromTop_concludes (scroller.withStep settings.step) choice settings.lookupTimeout
  apply (selects.strengthen fun _ ended => ended.2).weaken
  · exact fun _ after ⟨clicked, found, selects⟩ => ⟨_, clicked, found, listed, selects⟩
  · exact fun _ _ unclicked => unclicked

theorem Selects.liesIn_iff (selects : page.Selects list choice clicked found after) :
    after.liesIn list clicked = true ↔ clicked = found := by
  obtain ⟨others, resolved⟩ := first?_eq_some_iff.mp selects.first
  have accepted := selects.accepted
  constructor
  · intro lies
    rw [firstInList, firstMatch, resolved, List.find?_cons_of_pos lies] at accepted
    exact Option.some.inj accepted
  · rintro rfl
    exact List.find?_some accepted

theorem Selects.liesIn_of_led (selects : page.Selects list choice clicked found after)
    (led : page.LedInto list choice) : after.liesIn list clicked = true :=
  led after selects.content clicked selects.first
    ⟨found, List.mem_of_find?_eq_some selects.accepted, List.find?_some selects.accepted⟩

/-- A selection that succeeds clicks the first match of the option, once and as the last thing. The search has
ended at the first match that lies in the list, so that one is what is clicked, and lies in the list then,
just in case it is the first of all; and so it is where the first match lies in the list as soon as any does. -/
theorem selection_clicks_first_match (page after : Page) (content choice : Path) (settings : DropdownSettings)
    (selected : (browser.selectInDropdown content choice settings).outcome page = (.ok (), after)) :
    ∃ list clicked found, page.first? (Html.parentOf content) = some list ∧
      page.Selects list choice clicked found after ∧
      (after.liesIn list clicked = true ↔ clicked = found) ∧
      (page.LedInto list choice → after.liesIn list clicked = true) := by
  have ended := selectInDropdown_concludes page content choice settings page rfl
  rw [selected] at ended
  obtain ⟨list, clicked, found, listed, selects⟩ := ended
  exact ⟨list, clicked, found, listed, selects, selects.liesIn_iff, selects.liesIn_of_led⟩

/-- A list of 100 pixels with one hidden and one shown item. -/
def menuPage (items : List Handle) : Page :=
  let list : Handle := ⟨"list"⟩
  let blank : Page := {}
  let withList := blank.add list { rect := ⟨0, 0, 200, 100⟩, extent := ⟨0, 500⟩ }
  let withHidden := withList.add ⟨"hidden"⟩ { rect := ⟨0, 20, 200, 20⟩, displayed := false, anchor := some list }
  let withShown := withHidden.add ⟨"shown"⟩ { rect := ⟨0, 40, 200, 20⟩, anchor := some list }
  (withShown.register (Html.parentOf Html.unorderedList) ⟨[list], none⟩).register Html.listItem ⟨items, none⟩

theorem menuPage_led : (menuPage [⟨"shown"⟩, ⟨"hidden"⟩]).LedInto ⟨"list"⟩ Html.listItem := by
  intro scrolled agree first found ⟨other, mem, lies⟩
  have settled : (menuPage [⟨"shown"⟩, ⟨"hidden"⟩]).Settled (· = ⟨"list"⟩) Html.listItem := by
    rw [Settled, show windows _ Html.listItem = [] by decide +kernel]
    simp
  have resolved : scrolled.resolve Html.listItem.toXPath = [⟨"shown"⟩, ⟨"hidden"⟩] :=
    (agree.resolve_eq settled).trans (by decide +kernel)
  rw [first?, resolved] at found
  obtain rfl : ⟨"shown"⟩ = first := Option.some.inj found
  rw [resolved, List.mem_cons, List.mem_singleton] at mem
  rcases mem with rfl | rfl
  · exact lies
  · obtain ⟨bounds, element, live, there, displayed, above⟩ := liesIn_iff.mp lies
    rw [agree.elements, show (menuPage [⟨"shown"⟩, ⟨"hidden"⟩]).elements.get? "hidden" =
      some { rect := ⟨0, 20, 200, 20⟩, displayed := false, anchor := some ⟨"list"⟩ } by decide +kernel] at there
    cases there
    cases displayed

theorem selection_clicks_first_match_shown :
    let (result, after) := (browser.selectInDropdown Html.unorderedList Html.listItem {}).outcome
      (menuPage [⟨"shown"⟩, ⟨"hidden"⟩])
    result = .ok () ∧ ∃ clicked, after.log.head? = some (.click clicked) ∧ after.liesIn ⟨"list"⟩ clicked = true := by
  have succeeded : ((browser.selectInDropdown Html.unorderedList Html.listItem {}).outcome
      (menuPage [⟨"shown"⟩, ⟨"hidden"⟩])).1 = .ok () := by decide +kernel
  generalize selected : (browser.selectInDropdown Html.unorderedList Html.listItem {}).outcome
      (menuPage [⟨"shown"⟩, ⟨"hidden"⟩]) = ended at succeeded
  obtain ⟨result, after⟩ := ended
  obtain rfl : result = .ok () := succeeded
  obtain ⟨list, clicked, found, listed, selects, _, lies⟩ := selection_clicks_first_match _ after _ _ {} selected
  obtain rfl : ⟨"list"⟩ = list := Option.some.inj
    ((show some _ = (menuPage [⟨"shown"⟩, ⟨"hidden"⟩]).first? (Html.parentOf Html.unorderedList) by
      decide +kernel).trans listed)
  obtain ⟨calls, log, _⟩ := selects.clicks
  exact ⟨rfl, clicked, by rw [log]; rfl, lies menuPage_led⟩

/-- With the hidden item first, the search ends at the item that is shown, and the hidden one is clicked. -/
theorem selection_clicks_hidden :
    let (result, after) := (browser.selectInDropdown Html.unorderedList Html.listItem {}).outcome
      (menuPage [⟨"hidden"⟩, ⟨"shown"⟩])
    result = .ok () ∧ after.log.head? = some (.click ⟨"hidden"⟩) ∧
      (after.elements.get? "hidden").map Element.displayed = some false ∧
      after.liesIn ⟨"list"⟩ ⟨"hidden"⟩ = false ∧ after.liesIn ⟨"list"⟩ ⟨"shown"⟩ = true := by
  decide +kernel

end Locator.Page
