import Locator.Proofs.Page.Failures
import Mathlib.Data.List.Induction
import Mathlib.Data.List.Nodup

/-!
# Queries follow the registrations

What has been registered on a page and not been forgotten since is a list in the order of registration. What a query
finds can be told from this list alone, as the page is scrolled: the elements of the rules that apply, each where it
is met first.
-/

namespace Locator

set_option autoImplicit false

/-- A rule with the XPath text that it is registered for. -/
structure Registration where
  xpath : String
  rule : Rule

namespace Page

/-! ## First mentions -/

theorem eraseDups_concat (handles : List Handle) (handle : Handle) :
    (handles ++ [handle]).eraseDups =
      if handle ∈ handles then handles.eraseDups else handles.eraseDups ++ [handle] := by
  rw [List.eraseDups_append]
  split
  case isTrue known => simp [List.removeAll, known]
  case isFalse new =>
    have kept : [handle].removeAll handles = [handle] := by simp [List.removeAll, new]
    rw [kept]
    rfl

theorem nodup_eraseDups (handles : List Handle) : handles.eraseDups.Nodup := by
  induction handles using List.reverseRecOn with
  | nil => exact List.nodup_nil
  | append_singleton handles handle ih =>
      rw [eraseDups_concat]
      split
      case isTrue => exact ih
      case isFalse new =>
          rw [← List.concat_eq_append]
          exact ih.concat (by simpa using new)

theorem firstMentions_eq_eraseDups (handles : List Handle) : firstMentions handles = handles.eraseDups := by
  induction handles using List.reverseRecOn with
  | nil => rfl
  | append_singleton handles handle ih =>
      unfold firstMentions at ih ⊢
      rw [List.foldl_append, ih, eraseDups_concat]
      simp

/-! ## The registrations of a page -/

/-- The page has come about with these registrations, in the order in which they were made. Those that were
forgotten are left out. -/
inductive HasRegistrations : Page → List Registration → Prop where
  | blank : HasRegistrations {} []
  | add {page ledger} (registered : HasRegistrations page ledger) (handle : Handle) (element : Element) :
      HasRegistrations (page.add handle element) ledger
  | registerXPath {page ledger} (registered : HasRegistrations page ledger) (xpath : String) (rule : Rule) :
      HasRegistrations (page.registerXPath xpath rule) (ledger ++ [⟨xpath, rule⟩])
  | unregister {page ledger} (registered : HasRegistrations page ledger) (path : Path) :
      HasRegistrations (page.unregister path)
        (ledger.filter fun registration => registration.xpath != path.toXPath)
  | setValue {page ledger} (registered : HasRegistrations page ledger) (handle : Handle) (value : String) :
      HasRegistrations (page.setValue handle value) ledger
  | clearHistory {page ledger} (registered : HasRegistrations page ledger) :
      HasRegistrations page.clearHistory ledger
  /-- Calls neither register nor forget, whether they fail or not. -/
  | call {page ledger} (registered : HasRegistrations page ledger) {Value : Type}
      (operation : BrowserOperation Value) : HasRegistrations ((operation.run browser).outcome page).2 ledger

variable {page after : Page} {ledger : List Registration}

theorem Arranged.exists_registered (arranged : page.Arranged after) (registered : page.HasRegistrations ledger) :
    ∃ ledger, after.HasRegistrations ledger := by
  cases arranged with
  | add handle element => exact ⟨_, registered.add handle element⟩
  | registerXPath xpath rule => exact ⟨_, registered.registerXPath xpath rule⟩
  | unregister path => exact ⟨_, registered.unregister path⟩
  | setValue handle value => exact ⟨_, registered.setValue handle value⟩
  | clearHistory => exact ⟨_, registered.clearHistory⟩

theorem Reachable.exists_registered (reachable : page.Reachable) : ∃ ledger, page.HasRegistrations ledger := by
  induction reachable with
  | blank => exact ⟨_, .blank⟩
  | change _ change ih =>
      obtain ⟨ledger, registered⟩ := ih
      obtain arranged | ⟨Value, operation, rfl⟩ := change.arranged_or_called
      · exact arranged.exists_registered registered
      · exact ⟨_, registered.call operation⟩

/-- The rules of one XPath text among registrations. -/
def rulesFor (ledger : List Registration) (xpath : String) : List Rule :=
  (ledger.filter fun registration => registration.xpath == xpath).map Registration.rule

theorem rulesFor_append_same (ledger : List Registration) (xpath : String) (rule : Rule) :
    rulesFor (ledger ++ [⟨xpath, rule⟩]) xpath = rulesFor ledger xpath ++ [rule] := by
  simp [rulesFor]

theorem rulesFor_append_other (ledger : List Registration) {xpath other : String} (different : xpath ≠ other)
    (rule : Rule) : rulesFor (ledger ++ [⟨xpath, rule⟩]) other = rulesFor ledger other := by
  simp [rulesFor, different]

theorem rulesFor_forget_same (ledger : List Registration) (xpath : String) :
    rulesFor (ledger.filter fun registration => registration.xpath != xpath) xpath = [] := by
  simp [rulesFor]

theorem rulesFor_forget_other (ledger : List Registration) {xpath other : String} (different : xpath ≠ other) :
    rulesFor (ledger.filter fun registration => registration.xpath != xpath) other = rulesFor ledger other := by
  unfold rulesFor
  rw [List.filter_filter]
  congr 1
  apply List.filter_congr
  intro registration _
  by_cases same : registration.xpath = other
  · simp [same, Ne.symm different]
  · simp [same]

theorem rules_after {Value : Type} (page : Page) (operation : BrowserOperation Value) :
    ((operation.run browser).outcome page).2.rules = page.rules := by
  have leaves := operation.leaves page
  generalize (operation.run browser).outcome page = ended at leaves ⊢
  cases leaves with
  | answered _ _ rules _ => exact rules
  | failed => rfl

theorem rules_setValue (page : Page) (handle : Handle) (value : String) :
    (page.setValue handle value).rules = page.rules := by
  unfold setValue
  split <;> rfl

/-- A page keeps the rules of each XPath text as they were registered, the texts apart from each other. -/
theorem HasRegistrations.rules (registered : page.HasRegistrations ledger) (xpath : String) :
    (page.rules.get? xpath).getD [] = rulesFor ledger xpath := by
  induction registered with
  | blank => rfl
  | add _ _ _ ih => exact ih
  | registerXPath registered named rule ih =>
      simp only [Page.registerXPath, Keyed.get?_insert]
      by_cases same : named = xpath
      · subst same
        rw [rulesFor_append_same, ← ih]
        simp
      · rw [rulesFor_append_other _ same, ← ih, if_neg same]
  | unregister registered path ih =>
      simp only [Page.unregister, Keyed.get?_erase]
      by_cases same : path.toXPath = xpath
      · subst same
        rw [rulesFor_forget_same, if_pos rfl]
        rfl
      · rw [rulesFor_forget_other _ same, ← ih, if_neg same]
  | setValue _ handle value ih => rw [rules_setValue, ih]
  | clearHistory _ ih => exact ih
  | call _ operation ih => rw [rules_after, ih]

/-! ## What queries find -/

/-- The elements that registrations list for an XPath text, as the page is scrolled. -/
def listed (page : Page) (ledger : List Registration) (xpath : String) : List Handle :=
  (((rulesFor ledger xpath).filter page.applies).flatMap Rule.handles).eraseDups

theorem HasRegistrations.resolve (registered : page.HasRegistrations ledger) (xpath : String) :
    page.resolve xpath = page.listed ledger xpath := by
  unfold Page.resolve listed
  rw [firstMentions_eq_eraseDups, registered.rules]

theorem mem_listed {xpath : String} {handle : Handle} :
    handle ∈ page.listed ledger xpath ↔
      ∃ registration ∈ ledger, registration.xpath = xpath ∧ page.applies registration.rule = true ∧
        handle ∈ registration.rule.handles := by
  simp only [listed, rulesFor, List.mem_eraseDups, List.mem_flatMap, List.mem_filter, List.mem_map, beq_iff_eq]
  constructor
  · rintro ⟨_, ⟨⟨registration, ⟨made, same⟩, rfl⟩, applies⟩, named⟩
    exact ⟨registration, made, same, applies, named⟩
  · rintro ⟨registration, made, same, applies, named⟩
    exact ⟨_, ⟨⟨registration, ⟨made, same⟩, rfl⟩, applies⟩, named⟩

/-- The elements of a rule that are new to a list, if the rule applies. -/
def newHandles (page : Page) (rule : Rule) (known : List Handle) : List Handle :=
  if page.applies rule then (rule.handles.filter (· ∉ known)).eraseDups else []

theorem listed_append_same (page : Page) (ledger : List Registration) (xpath : String) (rule : Rule) :
    page.listed (ledger ++ [⟨xpath, rule⟩]) xpath =
      page.listed ledger xpath ++ page.newHandles rule (page.listed ledger xpath) := by
  unfold listed newHandles
  rw [rulesFor_append_same, List.filter_append, List.flatMap_append]
  generalize ((rulesFor ledger xpath).filter page.applies).flatMap Rule.handles = earlier
  cases applies : page.applies rule with
  | false => simp [applies]
  | true => simp [applies, List.eraseDups_append, List.removeAll]

theorem listed_append_other (page : Page) (ledger : List Registration) {xpath other : String}
    (different : xpath ≠ other) (rule : Rule) :
    page.listed (ledger ++ [⟨xpath, rule⟩]) other = page.listed ledger other := by
  unfold listed
  rw [rulesFor_append_other ledger different]

theorem listed_forget_same (page : Page) (ledger : List Registration) (xpath : String) :
    page.listed (ledger.filter fun registration => registration.xpath != xpath) xpath = [] := by
  unfold listed
  rw [rulesFor_forget_same]
  rfl

theorem listed_forget_other (page : Page) (ledger : List Registration) {xpath other : String}
    (different : xpath ≠ other) :
    page.listed (ledger.filter fun registration => registration.xpath != xpath) other = page.listed ledger other := by
  unfold listed
  rw [rulesFor_forget_other ledger different]

theorem answer_findAll (page : Page) (path : Path) :
    ((browser.findAll path).outcome page).1 = .ok (page.resolve path.toXPath) := by
  rw [outcome_findAll]

theorem answer_find (page : Page) (path : Path) :
    ((browser.find path).outcome page).1 =
      ((page.resolve path.toXPath).head?.elim (.error ⟨.notFound, path.toXPath⟩) .ok) := by
  cases found : page.resolve path.toXPath with
  | nil => rw [outcome_find_of_nil found]; rfl
  | cons first others => rw [outcome_find_of_cons found]; rfl

/-- A page that came about in any way has registrations. These decide what every path finds there: the elements of
the rules for its XPath text that apply, in the order of registration, each once and where it is met first. The
first of them is the match, and there is none exactly where nothing is listed. A further rule that applies adds at
the end what it has that is not listed yet, forgetting a path leaves nothing of what it finds, and neither touches
a path of another XPath text. Paths of one XPath text can stand for each other throughout. -/
theorem queries_follow_registrations :
    (∀ page, Reachable page → ∃ ledger, page.HasRegistrations ledger) ∧
    ∀ page ledger, page.HasRegistrations ledger →
      (∀ path,
        let found := page.listed ledger path.toXPath
        ((browser.findAll path).outcome page).1 = .ok found ∧
        (∀ handle, ((browser.find path).outcome page).1 = .ok handle ↔ found.head? = some handle) ∧
        (∀ error, ((browser.find path).outcome page).1 = .error error ↔
          found = [] ∧ error = ⟨.notFound, path.toXPath⟩) ∧
        found.Nodup ∧
        ∀ handle, handle ∈ found ↔ ∃ registration ∈ ledger, registration.xpath = path.toXPath ∧
          page.applies registration.rule = true ∧ handle ∈ registration.rule.handles) ∧
      (∀ path rule,
        let found := page.listed ledger path.toXPath
        ((browser.findAll path).outcome (page.register path rule)).1 = .ok (found ++ page.newHandles rule found) ∧
        ∀ other : Path, other.toXPath ≠ path.toXPath →
          ((browser.findAll other).outcome (page.register path rule)).1 = ((browser.findAll other).outcome page).1) ∧
      (∀ path,
        ((browser.findAll path).outcome (page.unregister path)).1 = .ok [] ∧
        ∀ other : Path, other.toXPath ≠ path.toXPath →
          ((browser.findAll other).outcome (page.unregister path)).1 = ((browser.findAll other).outcome page).1) ∧
      ∀ path other : Path, path.toXPath = other.toXPath →
        (∀ rule, page.register path rule = page.register other rule) ∧
        page.unregister path = page.unregister other ∧
        browser.find path = browser.find other ∧ browser.findAll path = browser.findAll other ∧
        browser.isPresent path = browser.isPresent other ∧ browser.count path = browser.count other := by
  refine ⟨fun page reachable => reachable.exists_registered, ?_⟩
  intro page ledger registered
  refine ⟨?queries, ?registering, ?forgetting, ?interchange⟩
  case queries =>
    intro path found
    have resolved : page.resolve path.toXPath = found := registered.resolve path.toXPath
    refine ⟨?_, ?_, ?_, nodup_eraseDups _, fun handle => mem_listed⟩
    · rw [answer_findAll, resolved]
    · intro handle
      rw [answer_find, resolved]
      cases found <;> simp
    · intro error
      rw [answer_find, resolved]
      cases found <;> simp [eq_comm]
  case registering =>
    intro path rule found
    have further := registered.registerXPath path.toXPath rule
    refine ⟨?_, ?_⟩
    · rw [answer_findAll]
      exact congrArg _ ((further.resolve _).trans (page.listed_append_same ledger path.toXPath rule))
    · intro other different
      rw [answer_findAll, answer_findAll, registered.resolve]
      exact congrArg _ ((further.resolve _).trans (page.listed_append_other ledger different.symm rule))
  case forgetting =>
    intro path
    have fewer := registered.unregister path
    refine ⟨?_, ?_⟩
    · rw [answer_findAll]
      exact congrArg _ ((fewer.resolve _).trans (page.listed_forget_same ledger path.toXPath))
    · intro other different
      rw [answer_findAll, answer_findAll, registered.resolve]
      exact congrArg _ ((fewer.resolve _).trans (page.listed_forget_other ledger different.symm))
  case interchange =>
    intro path other same
    have find : browser.find path = browser.find other := by
      show Page.find path = Page.find other
      unfold Page.find
      rw [same]
    have findAll : browser.findAll path = browser.findAll other := by
      show Page.findAll path = Page.findAll other
      unfold Page.findAll
      rw [same]
    refine ⟨?_, ?_, find, findAll, ?_, ?_⟩
    · intro rule
      unfold register
      rw [same]
    · unfold Page.unregister
      rw [same]
    · unfold Browser.isPresent
      rw [findAll]
    · unfold Browser.count
      rw [findAll]

/-- The registrations of the items of a list: the first two while it is scrolled halfway down, the last two always. -/
def itemRegistrations : List Registration :=
  [⟨Html.listItem.toXPath, ⟨[⟨"a"⟩, ⟨"b"⟩], some { container := ⟨"list"⟩, y := .between 100 200 }⟩⟩,
    ⟨Html.listItem.toXPath, ⟨[⟨"b"⟩, ⟨"c"⟩], none⟩⟩]

/-- A page with the list. -/
def itemPage : Page :=
  let blank : Page := {}
  let page := blank.add ⟨"list"⟩ { extent := ⟨0, 300⟩ }
  itemRegistrations.foldl (fun page registration => page.registerXPath registration.xpath registration.rule) page

theorem itemPage_registered : itemPage.HasRegistrations itemRegistrations :=
  ((HasRegistrations.blank.add _ _).registerXPath _ _).registerXPath _ _

theorem queries_follow_registrations_overlapping :
    let halfway := ((browser.scrollBy ⟨"list"⟩ 0 150).outcome itemPage).2
    ((browser.findAll Html.listItem).outcome itemPage).1 = .ok [⟨"b"⟩, ⟨"c"⟩] ∧
    ((browser.findAll Html.listItem).outcome halfway).1 = .ok [⟨"a"⟩, ⟨"b"⟩, ⟨"c"⟩] ∧
    ((browser.findAll Html.listItem).outcome
      (halfway.register Html.listItem ⟨[⟨"d"⟩, ⟨"b"⟩, ⟨"d"⟩], none⟩)).1 = .ok [⟨"a"⟩, ⟨"b"⟩, ⟨"c"⟩, ⟨"d"⟩] := by
  intro halfway
  obtain ⟨-, follow⟩ := queries_follow_registrations
  have registered : halfway.HasRegistrations itemRegistrations :=
    itemPage_registered.call (.scrollBy ⟨"list"⟩ 0 150)
  obtain ⟨queries, registering, -⟩ := follow halfway itemRegistrations registered
  refine ⟨?_, ?_, ?_⟩
  · exact ((follow itemPage itemRegistrations itemPage_registered).1 Html.listItem).1.trans (by decide +kernel)
  · exact (queries Html.listItem).1.trans (by decide +kernel)
  · exact (registering Html.listItem ⟨[⟨"d"⟩, ⟨"b"⟩, ⟨"d"⟩], none⟩).1.trans (by decide +kernel)

end Page

end Locator
