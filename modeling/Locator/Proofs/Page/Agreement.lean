import Locator.Proofs.Browser.Akin
import Locator.Proofs.Page.Rendered

/-!
# Pages that are scrolled differently

Two pages of the same content that differ in the offsets of a few loose containers answer alike whatever does
not hinge on these. A container that is scrolled to its start is not loose any more.
-/

namespace Locator.Page

open Locator.Action

set_option autoImplicit false

/-- The same content, scrolled alike but for the loose containers. -/
structure AgreeOff (loose : Handle → Prop) (page page' : Page) : Prop where
  elements : page'.elements = page.elements
  rules : page'.rules = page.rules
  offset : ∀ handle, ¬loose handle → page'.offset handle = page.offset handle

/-- The same content, scrolled alike. -/
abbrev Same : Page → Page → Prop :=
  AgreeOff fun _ => False

/-- The windows on which it depends what the path finds. -/
def windows (page : Page) (path : Path) : List Window :=
  ((page.rules.get? path.toXPath).getD []).filterMap Rule.window

/-- What the path finds does not hinge on a loose container. -/
def Settled (page : Page) (loose : Handle → Prop) (path : Path) : Prop :=
  ∀ window ∈ page.windows path, ¬loose window.container

variable {loose : Handle → Prop} {base page page' : Page} {path : Path} {handle : Handle}

theorem AgreeOff.refl (page : Page) : AgreeOff loose page page :=
  ⟨rfl, rfl, fun _ _ => rfl⟩

theorem AgreeOff.trans {page'' : Page} (agree : AgreeOff loose page page') (next : AgreeOff loose page' page'') :
    AgreeOff loose page page'' :=
  ⟨next.elements.trans agree.elements, next.rules.trans agree.rules,
    fun handle settled => (next.offset handle settled).trans (agree.offset handle settled)⟩

theorem AgreeOff.symm (agree : AgreeOff loose page page') : AgreeOff loose page' page :=
  ⟨agree.elements.symm, agree.rules.symm, fun handle settled => (agree.offset handle settled).symm⟩

theorem AgreeOff.recorded {call : Call} (agree : AgreeOff loose page page') :
    AgreeOff loose page (page'.record call) :=
  ⟨agree.elements, agree.rules, agree.offset⟩

theorem AgreeOff.mono {loose' : Handle → Prop} (agree : AgreeOff loose page page')
    (more : ∀ handle, loose handle → loose' handle) : AgreeOff loose' page page' :=
  ⟨agree.elements, agree.rules, fun handle settled => agree.offset handle fun in_ => settled (more handle in_)⟩

theorem AgreeOff.resolve_eq (agree : AgreeOff loose page page') (settled : page.Settled loose path) :
    page'.resolve path.toXPath = page.resolve path.toXPath := by
  have applying : ((page.rules.get? path.toXPath).getD []).filter page'.applies =
      ((page.rules.get? path.toXPath).getD []).filter page.applies := by
    apply List.filter_congr
    intro rule mem
    unfold applies
    cases window : rule.window with
    | none => rfl
    | some window' =>
        have same := agree.offset _ (settled window' (List.mem_filterMap.mpr ⟨rule, mem, window⟩))
        simp only [Option.all_some, windowHolds, same]
  simp only [resolve, agree.rules, applying]

theorem Settled.of_rules (settled : base.Settled loose path) (same : page.rules = base.rules) :
    page.Settled loose path := by
  unfold Settled windows at settled ⊢
  rwa [same]

/-! ## Operations -/

/-- The two pages have the content of `base` and are scrolled alike but for the loose containers. -/
def Between (base : Page) (loose : Handle → Prop) (page page' : Page) : Prop :=
  page.rules = base.rules ∧ AgreeOff loose page page'

theorem find_alike (settled : base.Settled loose path) :
    Alike (base.Between loose) (browser.find path) (browser.find path) := by
  rintro page page' ⟨rules, agree⟩
  have resolved := agree.resolve_eq (settled.of_rules rules)
  cases found : page.resolve path.toXPath with
  | nil =>
      rw [outcome_find_of_nil found, outcome_find_of_nil (resolved.trans found)]
      exact ⟨rfl, rules, agree.elements, agree.rules, agree.offset⟩
  | cons first others =>
      rw [outcome_find_of_cons found, outcome_find_of_cons (resolved.trans found)]
      exact ⟨rfl, rules, agree.elements, agree.rules, agree.offset⟩

theorem findAll_alike (settled : base.Settled loose path) :
    Alike (base.Between loose) (browser.findAll path) (browser.findAll path) := by
  rintro page page' ⟨rules, agree⟩
  have resolved := agree.resolve_eq (settled.of_rules rules)
  rw [outcome_findAll, outcome_findAll, resolved]
  exact ⟨rfl, rules, agree.elements, agree.rules, agree.offset⟩

theorem onElement_alike {Value : Type} {read : Page → Element → Value}
    (reads : ∀ page page' element, AgreeOff loose page page' → read page' element = read page element) :
    Alike (base.Between loose) (onElement handle read) (onElement handle read) := by
  rintro page page' ⟨rules, agree⟩
  have same : page'.element? handle = page.element? handle := by
    unfold element?
    rw [agree.elements]
  unfold onElement Action.outcome
  cases found : page.element? handle with
  | error error =>
      simp only [ExceptT.run, StateT.run, same.trans found, found]
      exact ⟨trivial, rules, agree⟩
  | ok element =>
      simp only [ExceptT.run, StateT.run, same.trans found, found, reads page page' element agree]
      exact ⟨trivial, rules, agree⟩

/-- A container that is scrolled to one place on pages of the same content ends at one offset on both. -/
theorem scroll_outcomes {call : Call} {place : Page → Offset} (elements : page'.elements = page.elements)
    (same : place (page'.record call) = place (page.record call)) :
    let scroll := recorded call fun page => page.setOffset handle (place page)
    (∃ error, scroll.outcome page = (.error error, page.record call) ∧
        scroll.outcome page' = (.error error, page'.record call)) ∨
      ∃ offset, scroll.outcome page = (.ok (), (page.record call).moved handle offset) ∧
        scroll.outcome page' = (.ok (), (page'.record call).moved handle offset) := by
  intro scroll
  have sameElement : (page'.record call).element? handle = (page.record call).element? handle := by
    unfold element?
    rw [show (page'.record call).elements = (page.record call).elements from elements]
  unfold scroll recorded Action.outcome setOffset
  cases found : (page.record call).element? handle with
  | error error =>
      simp only [ExceptT.run, StateT.run, sameElement.trans found, found]
      exact .inl ⟨error, rfl, rfl⟩
  | ok element =>
      simp only [ExceptT.run, StateT.run, sameElement.trans found, found, same]
      exact .inr ⟨_, rfl, rfl⟩

/-- A container that is at one offset on both pages is not loose any more. -/
theorem AgreeOff.moved (agree : AgreeOff loose page page') (call : Call) (offset : Offset) :
    AgreeOff (fun other => loose other ∧ other ≠ handle) ((page.record call).moved handle offset)
      ((page'.record call).moved handle offset) := by
  refine ⟨agree.elements, agree.rules, ?_⟩
  intro other settled
  rw [offset_moved, offset_moved]
  split
  case isTrue => rfl
  case isFalse different => exact agree.offset other fun in_ => settled ⟨in_, different⟩

/-- A loose container may be scrolled further. -/
theorem AgreeOff.scrolled (agree : AgreeOff loose page page') (within : loose handle) (offset : Offset) :
    AgreeOff loose page (page'.moved handle offset) := by
  refine ⟨agree.elements, agree.rules, ?_⟩
  intro other settled
  have different : ¬other = handle := fun same => settled (same ▸ within)
  rw [offset_moved, if_neg different]
  exact agree.offset other settled

theorem scroll_agree {before after : Page → Page → Prop} {call : Call} {place : Page → Offset}
    (same : ∀ page page', before page page' →
      page'.elements = page.elements ∧ place (page'.record call) = place (page.record call))
    (moves : ∀ page page' offset, before page page' →
      after ((page.record call).moved handle offset) ((page'.record call).moved handle offset)) :
    Agree before (recorded call fun page => page.setOffset handle (place page))
      (recorded call fun page => page.setOffset handle (place page)) fun _ => after := by
  intro page page' start
  obtain ⟨elements, samePlace⟩ := same page page' start
  rcases scroll_outcomes elements samePlace with ⟨error, ended, ended'⟩ | ⟨offset, ended, ended'⟩
  · rw [ended, ended']
    exact .error rfl
  · rw [ended, ended']
    exact .ok () (moves page page' offset start)

theorem scroll_alike {call : Call} {place : Page → Offset}
    (same : ∀ page page', base.Between loose page page' →
      place (page'.record call) = place (page.record call)) :
    Alike (base.Between loose) (recorded call fun page => page.setOffset handle (place page))
      (recorded call fun page => page.setOffset handle (place page)) := by
  rintro page page' ⟨rules, agree⟩
  rcases scroll_outcomes agree.elements (same page page' ⟨rules, agree⟩) with
    ⟨error, ended, ended'⟩ | ⟨offset, ended, ended'⟩
  · rw [ended, ended']
    exact ⟨rfl, rules, agree.elements, agree.rules, agree.offset⟩
  · rw [ended, ended']
    exact ⟨rfl, rules, (agree.moved _ offset).mono fun other loosened => loosened.1⟩

theorem scrollBy_alike (settled : ¬loose handle) (dx dy : Int) :
    Alike (base.Between loose) (browser.scrollBy handle dx dy) (browser.scrollBy handle dx dy) := by
  dsimp only [browser]
  apply scroll_alike
  intro page page' between
  have same : (page'.record (.scrollBy handle dx dy)).offset handle =
      (page.record (.scrollBy handle dx dy)).offset handle := between.2.offset handle settled
  rw [same]

theorem scrollTo_alike (settled : ¬loose handle) (x y : Option Int) :
    Alike (base.Between loose) (browser.scrollTo handle x y) (browser.scrollTo handle x y) := by
  dsimp only [browser]
  apply scroll_alike
  intro page page' between
  have same : (page'.record (.scrollTo handle x y)).offset handle =
      (page.record (.scrollTo handle x y)).offset handle := between.2.offset handle settled
  rw [same]

theorem scrollOffset_alike (settled : ¬loose handle) :
    Alike (base.Between loose) (browser.scrollOffset handle) (browser.scrollOffset handle) :=
  onElement_alike fun _ _ _ agree => agree.offset handle settled

theorem toTopLeftCorner_agree (scroller : Scroller) {before after : Page → Page → Prop}
    (elements : ∀ page page', before page page' → page'.elements = page.elements)
    (moves : ∀ page page' call offset, before page page' →
      after ((page.record call).moved scroller.container offset)
        ((page'.record call).moved scroller.container offset)) :
    Agree before (scroller.toTopLeftCorner browser) (scroller.toTopLeftCorner browser) fun _ => after := by
  unfold Scroller.toTopLeftCorner
  dsimp only [browser]
  exact scroll_agree (fun page page' start => ⟨elements page page' start, rfl⟩) fun page page' => moves page page' _

theorem toLeftEdge_agree (scroller : Scroller) {before after : Page → Page → Prop}
    (elements : ∀ page page', before page page' → page'.elements = page.elements)
    (rows : ∀ page page', before page page' →
      (page'.offset scroller.container).y = (page.offset scroller.container).y)
    (moves : ∀ page page' call offset, before page page' →
      after ((page.record call).moved scroller.container offset)
        ((page'.record call).moved scroller.container offset)) :
    Agree before (scroller.toLeftEdge browser) (scroller.toLeftEdge browser) fun _ => after := by
  unfold Scroller.toLeftEdge
  dsimp only [browser]
  apply scroll_agree
  · intro page page' start
    have same : ((page'.record (.scrollTo scroller.container (some 0) none)).offset scroller.container).y =
        ((page.record (.scrollTo scroller.container (some 0) none)).offset scroller.container).y :=
      rows page page' start
    simp only [placed, Option.getD_some, Option.getD_none, same]
    exact ⟨elements page page' start, trivial⟩
  · exact fun page page' => moves page page' _

/-! ## Looking things up -/

/-- Pages so related have the content of `base`, are scrolled like it but for the loose containers, and stay
related when calls are recorded. -/
structure Lookups (base : Page) (loose : Handle → Prop) (related : Page → Page → Prop) : Prop where
  left : ∀ page page', related page page' → AgreeOff loose base page
  right : ∀ page page', related page page' → AgreeOff loose base page'
  recorded : ∀ page page' call call', related page page' → related (page.record call) (page'.record call')

theorem Lookups.find_agree {related : Page → Page → Prop} (lookups : base.Lookups loose related)
    (settled : base.Settled loose path) :
    Agree related (browser.find path) (browser.find path)
      fun handle page page' => base.first? path = some handle ∧ related page page' := by
  intro page page' start
  have resolved := (lookups.left page page' start).resolve_eq settled
  have resolved' := (lookups.right page page' start).resolve_eq settled
  cases found : base.resolve path.toXPath with
  | nil =>
      rw [outcome_find_of_nil (resolved.trans found), outcome_find_of_nil (resolved'.trans found)]
      exact .error rfl
  | cons handle others =>
      rw [outcome_find_of_cons (resolved.trans found), outcome_find_of_cons (resolved'.trans found)]
      exact .ok handle ⟨first?_eq_some_iff.mpr ⟨others, found⟩, lookups.recorded _ _ _ _ start⟩

theorem Lookups.isPresent_agree {related : Page → Page → Prop} (lookups : base.Lookups loose related)
    (settled : base.Settled loose path) :
    Agree related (browser.isPresent path) (browser.isPresent path)
      fun present page page' => present = (base.first? path).isSome ∧ related page page' := by
  intro page page' start
  have resolved := (lookups.left page page' start).resolve_eq settled
  have resolved' := (lookups.right page page' start).resolve_eq settled
  unfold Browser.isPresent
  rw [outcome_bind_of_ok (outcome_findAll path), outcome_bind_of_ok (outcome_findAll path), resolved, resolved']
  refine .ok _ ⟨?_, lookups.recorded _ _ _ _ start⟩
  unfold first?
  cases base.resolve path.toXPath <;> rfl

/-! ## Searches -/

/-- What the page shows is found without a step. -/
theorem outcome_untilPresent_of_first? {scroller : Scroller} {direction : Direction}
    (shown : page.first? path = some handle) :
    (scroller.untilPresent browser direction path).outcome page =
      (.ok handle, page.record (.findAll path.toXPath)) := by
  obtain ⟨others, resolved⟩ := first?_eq_some_iff.mp shown
  have probed : (Scroller.probe browser path fun _ => pure true).outcome page =
      (.ok (some handle), page.record (.findAll path.toXPath)) := by
    unfold Scroller.probe
    rw [outcome_bind_of_ok (outcome_findAll path), resolved]
    rfl
  unfold Scroller.untilPresent Scroller.untilAccepted stepLimit Scroller.searchFrom
  rw [outcome_bind_of_ok probed]
  rfl

/-- A search in a settled container for what is settled goes alike. -/
theorem untilPresent_alike {scroller : Scroller} (container : ¬loose scroller.container)
    (settled : base.Settled loose path) (direction : Direction) :
    Alike (base.Between loose) (scroller.untilPresent browser direction path)
      (scroller.untilPresent browser direction path) := by
  have places : Alike (base.Between loose) (scroller.place browser direction)
      (scroller.place browser direction) :=
    (scrollOffset_alike container).bind fun offset => .pure _
  have steps : Alike (base.Between loose) (scroller.step browser direction)
      (scroller.step browser direction) := by
    cases direction with
    | down => exact scrollBy_alike container _ _
    | right => exact scrollBy_alike container _ _
  have probes : Alike (base.Between loose) (Scroller.probe browser path fun _ => pure true)
      (Scroller.probe browser path fun _ => pure true) :=
    (findAll_alike settled).bind fun candidates =>
      Scroller.firstAccepted_alike (fun _ => .pure true) candidates
  exact Scroller.searchFrom_alike_of probes places steps stepLimit 0 0

theorem scroll_keeps (scope : loose handle) {call : Call} {place : Page → Offset} :
    Confined (AgreeOff loose base) (recorded call fun page => page.setOffset handle (place page))
      fun _ => True := by
  apply recorded_confined
  · exact fun current agree => agree.recorded
  · intro current after agree moves
    obtain ⟨reached, rfl⟩ := setOffset_moves moves
    exact agree.scrolled scope reached
  · exact fun _ _ _ => trivial

/-- A search scrolls its container and nothing else. -/
theorem untilPresent_scrolls {scroller : Scroller} (scope : loose scroller.container) (direction : Direction)
    (path : Path) :
    Confined (AgreeOff loose base) (scroller.untilPresent browser direction path) fun _ => True := by
  have probes : Confined (AgreeOff loose base) (Scroller.probe browser path fun _ => pure true)
      fun _ => True := by
    apply Confined.bind
    · exact fun current agree => ⟨trivial, agree.elements, agree.rules, agree.offset⟩
    · exact fun candidates => Scroller.firstAccepted_confined (fun _ => .pure true) candidates
  have places : Confined (AgreeOff loose base) (scroller.place browser direction) fun _ => True :=
    Confined.bind (onElement_confined fun _ _ => trivial) fun offset => .pure _
  have steps : Confined (AgreeOff loose base) (scroller.step browser direction) fun _ => True := by
    cases direction with
    | down =>
        dsimp only [Scroller.step, browser]
        exact scroll_keeps scope
    | right =>
        dsimp only [Scroller.step, browser]
        exact scroll_keeps scope
  exact Scroller.searchFrom_confined_of (fun _ _ => trivial) probes places steps stepLimit 0 0

/-! ## Everything -/

theorem modify_alike {call : Call} {change : Element → Element} :
    Alike (base.Between loose) (recorded call fun page => page.modify handle change)
      (recorded call fun page => page.modify handle change) := by
  rintro page page' ⟨rules, agree⟩
  have elements : (page'.record call).element? handle = (page.record call).element? handle := by
    unfold element?
    rw [show (page'.record call).elements = (page.record call).elements from agree.elements]
  unfold recorded Action.outcome modify
  cases found : (page.record call).element? handle with
  | error error =>
      simp only [ExceptT.run, StateT.run, elements.trans found, found]
      exact ⟨trivial, rules, agree.elements, agree.rules, agree.offset⟩
  | ok element =>
      simp only [ExceptT.run, StateT.run, elements.trans found, found]
      refine ⟨trivial, rules, ?_, agree.rules, agree.offset⟩
      simp only [add]
      rw [show (page'.record call).elements = (page.record call).elements from agree.elements]

theorem click_alike : Alike (base.Between loose) (browser.click handle) (browser.click handle) := by
  rintro page page' ⟨rules, agree⟩
  have same : page'.element? handle = page.element? handle := by
    unfold element?
    rw [agree.elements]
  unfold browser click Action.outcome
  cases found : page.element? handle with
  | error error =>
      simp only [ExceptT.run, StateT.run, same.trans found, found]
      exact ⟨trivial, rules, agree⟩
  | ok element =>
      simp only [ExceptT.run, StateT.run, same.trans found, found]
      exact ⟨trivial, rules, agree.elements, agree.rules, agree.offset⟩

/-- On pages that are scrolled alike, everything goes alike. -/
theorem browser_alike (base : Page) : browser.Alike (base.Between fun _ => False) browser := by
  have settled (path : Path) : base.Settled (fun _ => False) path := fun _ _ in_ => in_
  constructor
  case find => exact fun path => find_alike (settled path)
  case findAll => exact fun path => findAll_alike (settled path)
  case click => exact fun handle => click_alike
  case sendKeys => exact fun handle keys => modify_alike
  case clear => exact fun handle => modify_alike
  case attribute? => exact fun handle name => onElement_alike fun _ _ _ _ => rfl
  case rect =>
    intro handle
    apply onElement_alike
    intro page page' element agree
    unfold Page.rect
    cases element.anchor with
    | none => rfl
    | some container => simp only [agree.offset container id]
  case isDisplayed => exact fun handle => onElement_alike fun _ _ _ _ => rfl
  case scrollBy => exact fun handle dx dy => scrollBy_alike id dx dy
  case scrollTo => exact fun handle x y => scrollTo_alike id x y
  case scrollOffset => exact fun handle => scrollOffset_alike id

end Locator.Page
