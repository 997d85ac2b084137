import Locator.Page.Browser
import Locator.Proofs.Browser.Timeouts

/-!
# Pages are steady

A page can always set its implicit timeout, and nothing else that is done to it changes that timeout.
-/

namespace Locator.Page

set_option autoImplicit false

variable {Value : Type}

theorem onElement_keeps (handle : Handle) (read : Page → Element → Value) (page : Page) :
    ((onElement handle read).outcome page).2 = page := by
  unfold onElement Action.outcome
  cases found : page.element? handle with
  | error error => simp only [ExceptT.run, StateT.run, found]
  | ok element => simp only [ExceptT.run, StateT.run, found]

theorem recorded_keeps {call : Call} {change : Page → Except Error Page}
    (keeps : ∀ page after, change page = .ok after → after.implicitTimeout = page.implicitTimeout)
    (page : Page) : ((recorded call change).outcome page).2.implicitTimeout = page.implicitTimeout := by
  unfold recorded Action.outcome
  cases changed : change (page.record call) with
  | error error =>
      simp only [ExceptT.run, StateT.run, changed]
      rfl
  | ok after =>
      simp only [ExceptT.run, StateT.run, changed]
      exact keeps (page.record call) after changed

theorem modify_keeps {handle : Handle} {change : Element → Element} (page after : Page)
    (changed : page.modify handle change = .ok after) : after.implicitTimeout = page.implicitTimeout := by
  unfold modify at changed
  cases found : page.element? handle with
  | error error => simp [found] at changed
  | ok element =>
      simp only [found, Except.ok.injEq] at changed
      rw [← changed]
      rfl

theorem setOffset_keeps {handle : Handle} {offset : Offset} (page after : Page)
    (changed : page.setOffset handle offset = .ok after) :
    after.implicitTimeout = page.implicitTimeout := by
  unfold setOffset at changed
  cases found : page.element? handle with
  | error error => simp [found] at changed
  | ok element =>
      simp only [found, Except.ok.injEq] at changed
      rw [← changed]

theorem find_keeps (path : Path) (page : Page) :
    ((find path).outcome page).2.implicitTimeout = page.implicitTimeout := by
  unfold find Action.outcome
  cases found : (page.record (.find path.toXPath)).resolve path.toXPath with
  | nil =>
      simp only [ExceptT.run, StateT.run, found]
      rfl
  | cons first others =>
      simp only [ExceptT.run, StateT.run, found]
      rfl

theorem click_keeps (handle : Handle) (page : Page) :
    ((click handle).outcome page).2.implicitTimeout = page.implicitTimeout := by
  unfold click Action.outcome
  cases found : page.element? handle with
  | error error => simp only [ExceptT.run, StateT.run, found]
  | ok element =>
      simp only [ExceptT.run, StateT.run, found]
      rfl

theorem browser_steady : Page.browser.Steady := by
  constructor
  · intro milliseconds page
    exact ⟨rfl, rfl⟩
  · intro timeout
    have kept {Value : Type} {action : Action Page Value}
        (keeps : ∀ page, (action.outcome page).2.implicitTimeout = page.implicitTimeout) :
        Action.Alike (fun page page' => page = page' ∧ page.implicitTimeout = timeout) action action := by
      intro page page' given
      rcases given with ⟨rfl, before⟩
      exact ⟨rfl, rfl, (keeps page).trans before⟩
    have read {Value : Type} (handle : Handle) (read : Page → Element → Value) (page : Page) :
        ((onElement handle read).outcome page).2.implicitTimeout = page.implicitTimeout :=
      congrArg Page.implicitTimeout (onElement_keeps handle read page)
    constructor
    case find => exact fun path => kept (find_keeps path)
    case findAll => exact fun path => kept fun page => rfl
    case click => exact fun handle => kept (click_keeps handle)
    case sendKeys => exact fun handle keys => kept (recorded_keeps modify_keeps)
    case clear => exact fun handle => kept (recorded_keeps modify_keeps)
    case attribute? => exact fun handle name => kept (read handle _)
    case rect => exact fun handle => kept (read handle _)
    case isDisplayed => exact fun handle => kept (read handle _)
    case scrollBy => exact fun handle dx dy => kept (recorded_keeps fun page => setOffset_keeps page)
    case scrollTo => exact fun handle x y => kept (recorded_keeps fun page => setOffset_keeps page)
    case scrollOffset => exact fun handle => kept (read handle _)

end Locator.Page
