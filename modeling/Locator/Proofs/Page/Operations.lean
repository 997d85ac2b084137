import Locator.Proofs.Browser.Alike
import Locator.Proofs.Browser.Confined
import Locator.Proofs.Page.Reachable

/-!
# What the operations of a page come to

The outcome of each operation on an element that is on the page, as an equation, and how operations fail.
-/

namespace Locator

set_option autoImplicit false

theorem Handle.ext_id {handle other : Handle} (same : handle.id = other.id) : handle = other := by
  cases handle
  cases other
  simpa using same

namespace Page

variable {page : Page} {handle : Handle} {element : Element}

/-- The page with a container at another offset. -/
def moved (page : Page) (handle : Handle) (offset : Offset) : Page :=
  { page with offsets := page.offsets.insert handle.id offset }

theorem offset_moved (page : Page) (handle other : Handle) (offset : Offset) :
    (page.moved handle offset).offset other = if other = handle then offset else page.offset other := by
  simp only [moved, Page.offset, Keyed.get?_insert]
  by_cases same : other = handle
  · subst same
    simp
  · have differ : handle.id ≠ other.id := fun equal => same (Handle.ext_id equal).symm
    simp [same, differ]

theorem outcome_find_of_cons {path : Path} {first : Handle} {others : List Handle}
    (found : page.resolve path.toXPath = first :: others) :
    (browser.find path).outcome page = (.ok first, page.record (.find path.toXPath)) := by
  have resolved : (page.record (.find path.toXPath)).resolve path.toXPath = first :: others := found
  unfold browser Page.find Action.outcome
  simp only [ExceptT.run, StateT.run, resolved]

theorem outcome_find_of_nil {path : Path} (missing : page.resolve path.toXPath = []) :
    (browser.find path).outcome page =
      (.error ⟨.notFound, path.toXPath⟩, page.record (.find path.toXPath)) := by
  have resolved : (page.record (.find path.toXPath)).resolve path.toXPath = [] := missing
  unfold browser Page.find Action.outcome
  simp only [ExceptT.run, StateT.run, resolved]

theorem outcome_findAll (path : Path) :
    (browser.findAll path).outcome page =
      (.ok (page.resolve path.toXPath), page.record (.findAll path.toXPath)) :=
  rfl

/-- Reading off an element fails when the element is stale, and leaves the page as it is. -/
theorem outcome_onElement_map {Value : Type} (page : Page) (handle : Handle) (read : Page → Element → Value) :
    (onElement handle read).outcome page = ((page.element? handle).map (read page), page) := by
  unfold onElement Action.outcome
  cases found : page.element? handle with
  | error error => simp only [ExceptT.run, StateT.run, found, Except.map]
  | ok element => simp only [ExceptT.run, StateT.run, found, Except.map]

section Live

variable (live : page.elements.get? handle.id = some element)

include live

theorem outcome_onElement {Value : Type} (read : Page → Element → Value) :
    (onElement handle read).outcome page = (.ok (read page element), page) := by
  have found := element?_eq_ok_iff.mpr live
  unfold onElement Action.outcome
  simp only [ExceptT.run, StateT.run, found]

theorem outcome_scrollOffset : (browser.scrollOffset handle).outcome page = (.ok (page.offset handle), page) :=
  outcome_onElement live _

theorem outcome_attribute? (name : String) :
    (browser.attribute? handle name).outcome page = (.ok (element.attribute? name), page) :=
  outcome_onElement live _

theorem outcome_isDisplayed : (browser.isDisplayed handle).outcome page = (.ok element.displayed, page) :=
  outcome_onElement live _

theorem outcome_rect : (browser.rect handle).outcome page = (.ok (page.rect element), page) :=
  outcome_onElement live _

theorem outcome_scrollBy (dx dy : Int) :
    (browser.scrollBy handle dx dy).outcome page =
      (.ok (), (page.record (.scrollBy handle dx dy)).moved handle
        (element.clampOffset
          ⟨wrapped ((page.offset handle).x + dx), wrapped ((page.offset handle).y + dy)⟩)) := by
  have found : (page.record (.scrollBy handle dx dy)).element? handle = .ok element :=
    element?_eq_ok_iff.mpr live
  unfold browser Page.recorded Action.outcome Page.setOffset
  simp only [ExceptT.run, StateT.run, found]
  rfl

theorem outcome_scrollTo (x y : Option Int) :
    (browser.scrollTo handle x y).outcome page =
      (.ok (), (page.record (.scrollTo handle x y)).moved handle
        (element.clampOffset (placed (page.offset handle) x y))) := by
  have found : (page.record (.scrollTo handle x y)).element? handle = .ok element :=
    element?_eq_ok_iff.mpr live
  unfold browser Page.recorded Action.outcome Page.setOffset
  simp only [ExceptT.run, StateT.run, found]
  rfl

end Live

/-! ## Failures -/

/-- Changes that keep a condition do so as recorded calls. -/
theorem recorded_confined {kept : Page → Prop} {bad : Error → Prop} {call : Call}
    {change : Page → Except Error Page} (records : ∀ page, kept page → kept (page.record call))
    (keeps : ∀ page after, kept page → change page = .ok after → kept after)
    (fails : ∀ page error, change page = .error error → bad error) :
    Action.Confined kept (recorded call change) bad := by
  intro page start
  unfold recorded Action.outcome
  cases changed : change (page.record call) with
  | error error =>
      simp only [ExceptT.run, StateT.run, changed]
      exact ⟨fails _ error changed, records page start⟩
  | ok after =>
      simp only [ExceptT.run, StateT.run, changed]
      exact ⟨trivial, keeps _ after (records page start) changed⟩

theorem setOffset_moves {offset : Offset} {after : Page} (moves : page.setOffset handle offset = .ok after) :
    ∃ reached, after = page.moved handle reached := by
  unfold setOffset at moves
  cases found : page.element? handle with
  | error error => simp [found] at moves
  | ok element =>
      simp only [found, Except.ok.injEq] at moves
      exact ⟨_, moves.symm⟩

section Failures

variable {bad : Error → Prop} (others : ∀ error, error.cause ≠ .invalidArgument → bad error)

include others

theorem element?_fails {error : Error} (failed : page.element? handle = .error error) : bad error := by
  unfold element? at failed
  split at failed
  · cases failed
    exact others _ (by simp)
  · cases failed

theorem setOffset_fails {offset : Offset} {error : Error} (failed : page.setOffset handle offset = .error error) :
    bad error := by
  unfold setOffset at failed
  cases found : page.element? handle with
  | error other =>
      simp only [found, Except.error.injEq] at failed
      exact failed ▸ element?_fails others found
  | ok element => simp [found] at failed

theorem modify_fails {change : Element → Element} {error : Error} (failed : page.modify handle change = .error error) :
    bad error := by
  unfold modify at failed
  cases found : page.element? handle with
  | error other =>
      simp only [found, Except.error.injEq] at failed
      exact failed ▸ element?_fails others found
  | ok element => simp [found] at failed

theorem onElement_confined {kept : Page → Prop} {Value : Type} {read : Page → Element → Value} :
    Action.Confined kept (onElement handle read) bad := by
  intro page start
  unfold onElement Action.outcome
  cases found : page.element? handle with
  | error error => simpa only [ExceptT.run, StateT.run, found] using ⟨element?_fails others found, start⟩
  | ok element => simpa only [ExceptT.run, StateT.run, found] using ⟨trivial, start⟩

/-- A page fails because nothing matches or an element is stale. -/
theorem browser_confined : browser.Confined (fun _ => True) bad := by
  have records (call : Call) {change : Page → Except Error Page}
      (fails : ∀ page error, change page = .error error → bad error) :
      Action.Confined (fun _ => True) (recorded call change) bad :=
    recorded_confined (fun _ _ => trivial) (fun _ _ _ _ => trivial) fails
  constructor
  case find =>
    intro path page _
    unfold browser find Action.outcome
    cases found : (page.record (.find path.toXPath)).resolve path.toXPath with
    | nil => simpa [ExceptT.run, StateT.run, found] using others _ (by simp)
    | cons first later => simp [ExceptT.run, StateT.run, found]
  case findAll => exact fun path page _ => ⟨trivial, trivial⟩
  case click =>
    intro handle page _
    unfold browser click Action.outcome
    cases found : page.element? handle with
    | error error => simpa [ExceptT.run, StateT.run, found] using element?_fails others found
    | ok element => simp [ExceptT.run, StateT.run, found]
  case sendKeys =>
    intro handle keys
    dsimp only [browser]
    exact records _ fun page error => modify_fails others
  case clear =>
    intro handle
    dsimp only [browser]
    exact records _ fun page error => modify_fails others
  case attribute? => exact fun handle name => onElement_confined others
  case rect => exact fun handle => onElement_confined others
  case isDisplayed => exact fun handle => onElement_confined others
  case scrollBy =>
    intro handle dx dy
    dsimp only [browser]
    exact records _ fun page error => setOffset_fails others
  case scrollTo =>
    intro handle x y
    dsimp only [browser]
    exact records _ fun page error => setOffset_fails others
  case scrollOffset => exact fun handle => onElement_confined others
  case setImplicitTimeout =>
    intro milliseconds
    dsimp only [browser]
    exact records _ fun page error failed => by cases failed

end Failures

end Page

end Locator
