import Locator.Browser.Action
import Locator.Geometry
import Locator.Path.Query
import Locator.Path.Build
import Locator.Text.Duration

/-!
# Browsers

A browser is a list of operations on a session, each of which may fail. Everything that interacts with a
page goes through these operations and knows nothing else about the session.
-/

namespace Locator

set_option autoImplicit false

/-- The operations of a browser session whose state is of type `State`. Times are in milliseconds. Whether a path
matches and how often it does are provided on top of `findAll`. An implementation may replace that; here `isPresent`
and `count` are fixed. -/
structure Browser (State : Type) where
  /-- The first node that a path matches, waiting up to the implicit timeout. -/
  find : Path → Action State Handle
  /-- All nodes that a path matches, in document order. -/
  findAll : Path → Action State (List Handle)
  click : Handle → Action State Unit
  /-- Types keys into an element. -/
  sendKeys : Handle → (keys : String) → Action State Unit
  /-- Empties an input the way the platform does it. -/
  clear : Handle → Action State Unit
  /-- The value of an attribute, if it is there. -/
  attribute? : Handle → (name : String) → Action State (Option String)
  rect : Handle → Action State Rect
  isDisplayed : Handle → Action State Bool
  /-- Scrolls the content of an element by a distance. -/
  scrollBy : Handle → (dx dy : Int) → Action State Unit
  /-- Scrolls the content of an element to a place; an axis without a place stays as it is. -/
  scrollTo : Handle → (x y : Option Int) → Action State Unit
  scrollOffset : Handle → Action State Offset
  /-- Sets how long every lookup waits. -/
  setImplicitTimeout : (milliseconds : Nat) → Action State Unit
  /-- How long every lookup waits. -/
  implicitTimeout : State → Nat

/-- What an operation is done to: an element that is known, or the first match of a path. -/
inductive Target where
  | handle (handle : Handle)
  | path (path : Path)

namespace Key

/-- Removes the character before the cursor. -/
def backspace : Char := '\ue003'

/-- Removes the character after the cursor. -/
def delete : Char := '\ue017'

def enter : Char := '\ue007'

end Key

namespace Browser

variable {State : Type}

/-- Whether a path matches anything. -/
def isPresent (browser : Browser State) (path : Path) : Action State Bool := do
  let found ← browser.findAll path
  return !found.isEmpty

/-- How many nodes a path matches. -/
def count (browser : Browser State) (path : Path) : Action State Nat := do
  let found ← browser.findAll path
  return found.length

/-- The element that a target stands for. -/
def locate (browser : Browser State) : Target → Action State Handle
  | .handle handle => pure handle
  | .path path => browser.find path

/-- Clicks a target and returns its element. -/
def clickOn (browser : Browser State) (target : Target) : Action State Handle := do
  let handle ← browser.locate target
  browser.click handle
  return handle

/-- Types keys into a target and returns its element. -/
def sendKeysTo (browser : Browser State) (keys : String) (target : Target) :
    Action State Handle := do
  let handle ← browser.locate target
  browser.sendKeys handle keys
  return handle

/-- The current value of an input, empty when it has none. -/
def valueOf (browser : Browser State) (target : Target) : Action State String := do
  let handle ← browser.locate target
  let value ← browser.attribute? handle "value"
  return value.getD ""

/-- Runs `body` under the implicit timeout `during`, and sets the timeout to `after` when the body is
done, whichever way it ends. A failure to do so is passed over: the outcome is the body's. When the
timeout cannot be lowered in the first place, the body is not run. -/
def withTimeout {Value : Type} (browser : Browser State) (during after : Nat)
    (body : Action State Value) : Action State Value := do
  browser.setImplicitTimeout during
  let result ← body.attempt
  let _ ← (browser.setImplicitTimeout after).attempt
  ofExcept result

/-- `withTimeout` that goes back to the implicit timeout there was. -/
def withLoweredTimeout {Value : Type} (browser : Browser State) (during : Nat)
    (body : Action State Value) : Action State Value := do
  let before ← Action.look browser.implicitTimeout
  browser.withTimeout during before body

/-- The same browser with its session as a part of a larger state. -/
def onPart {Whole : Type} (get : Whole → State) (set : State → Whole → Whole)
    (browser : Browser State) : Browser Whole where
  find path := (browser.find path).onPart get set
  findAll path := (browser.findAll path).onPart get set
  click handle := (browser.click handle).onPart get set
  sendKeys handle keys := (browser.sendKeys handle keys).onPart get set
  clear handle := (browser.clear handle).onPart get set
  attribute? handle name := (browser.attribute? handle name).onPart get set
  rect handle := (browser.rect handle).onPart get set
  isDisplayed handle := (browser.isDisplayed handle).onPart get set
  scrollBy handle dx dy := (browser.scrollBy handle dx dy).onPart get set
  scrollTo handle x y := (browser.scrollTo handle x y).onPart get set
  scrollOffset handle := (browser.scrollOffset handle).onPart get set
  setImplicitTimeout milliseconds := (browser.setImplicitTimeout milliseconds).onPart get set
  implicitTimeout whole := browser.implicitTimeout (get whole)

end Browser

/-- What a lowered timeout shows of itself: the time that it will be set to when it ends. -/
def timeoutGuardText (restore : Nat) : String :=
  "TimeoutGuard \x7b restore: " ++ Text.duration restore ++ ", .. \x7d"

end Locator
