import Locator.Browser.Basic
import Locator.Settings.Basic

/-!
# Scrolling until something is found

A search looks for its target before the first step and after every step. A step that does not move the
container strictly forward is a stall; after enough stalls in a row the content is at its end and the
search fails.
-/

namespace Locator

set_option autoImplicit false

/-- The directions a search scrolls in. -/
inductive Direction where
  | down
  | right
  deriving DecidableEq

/-- The word for a direction. -/
def Direction.word : Direction → String
  | .down => "down"
  | .right => "right"

/-- The offset on the axis of a direction. -/
def Direction.place : Direction → Offset → Int
  | .down, offset => offset.y
  | .right, offset => offset.x

/-- A container that is scrolled, and how. -/
structure Scroller where
  container : Handle
  settings : ScrollSettings := {}

/-- How many steps of a search are followed. The program itself goes on for as long as the page makes it, and there
is no error at this place. Offsets have 64 bits, so where the content holds still and no step leads out of their
range, a search has ended before; only a page that moves under the search, or a step that wraps around, gets
here. -/
def stepLimit : Nat := 0x10000000000000000

namespace Scroller

variable {State : Type}

/-- The scroller of the container that a target stands for. -/
def ofTarget (browser : Browser State) (target : Target) : Action State Scroller := do
  let container ← browser.locate target
  return { container }

/-- The scroller with other settings. -/
def withSettings (scroller : Scroller) (settings : ScrollSettings) : Scroller :=
  { scroller with settings }

/-- The scroller with another step. -/
def withStep (scroller : Scroller) (step : Int) : Scroller :=
  { scroller with settings := { scroller.settings with step } }

/-- Scrolls to the start on both axes. -/
def toTopLeftCorner (browser : Browser State) (scroller : Scroller) : Action State Unit :=
  browser.scrollTo scroller.container (some 0) (some 0)

/-- Scrolls to the left edge. -/
def toLeftEdge (browser : Browser State) (scroller : Scroller) : Action State Unit :=
  browser.scrollTo scroller.container (some 0) none

/-- Scrolls to the top edge. -/
def toTopEdge (browser : Browser State) (scroller : Scroller) : Action State Unit :=
  browser.scrollTo scroller.container none (some 0)

/-- The first of the elements that is accepted. -/
def firstAccepted (accept : Handle → Action State Bool) : List Handle → Action State (Option Handle)
  | [] => pure none
  | candidate :: others => do
      if ← accept candidate then return some candidate
      firstAccepted accept others

/-- The first match of `path`, as the page is scrolled now, that is accepted. -/
def probe (browser : Browser State) (path : Path) (accept : Handle → Action State Bool) :
    Action State (Option Handle) := do
  let candidates ← browser.findAll path
  firstAccepted accept candidates

/-- Where the container is on the axis of a direction. -/
def place (browser : Browser State) (scroller : Scroller) (direction : Direction) :
    Action State Int := do
  let offset ← browser.scrollOffset scroller.container
  return direction.place offset

/-- One step in a direction. -/
def step (browser : Browser State) (scroller : Scroller) : Direction → Action State Unit
  | .down => browser.scrollBy scroller.container 0 scroller.settings.step
  | .right => browser.scrollBy scroller.container scroller.settings.step 0

/-- The error of a search that came to the end of the content after `steps` steps, which are counted in 32 bits. -/
def exhausted (path : Path) (direction : Direction) (steps : Nat) : Error :=
  ⟨.notFound,
    path.describe ++ " after scrolling " ++ direction.word ++ " " ++ toString (steps % 0x100000000) ++
      " steps"⟩

/-- A search that is followed for up to `limit` further steps, after `steps` steps of which the last `stalls`
were stalls. That it has not ended by then is said by an error which the program does not have. -/
def searchFrom (browser : Browser State) (scroller : Scroller) (direction : Direction) (path : Path)
    (accept : Handle → Action State Bool) : (limit stalls steps : Nat) → Action State Handle
  | 0, _, _ => throw ⟨.endless, path.describe⟩
  | limit + 1, stalls, steps => do
      match ← probe browser path accept with
      | some found => return found
      | none =>
          if scroller.settings.maxStalls ≤ stalls then throw (exhausted path direction steps)
          let before ← scroller.place browser direction
          scroller.step browser direction
          let after ← scroller.place browser direction
          let stalls := if before < after then 0 else stalls + 1
          searchFrom browser scroller direction path accept limit stalls (steps + 1)

/-- Scrolls until a match of `path` is accepted. -/
def untilAccepted (browser : Browser State) (scroller : Scroller) (direction : Direction)
    (path : Path) (accept : Handle → Action State Bool) : Action State Handle :=
  scroller.searchFrom browser direction path accept stepLimit 0 0

/-- Scrolls until `path` matches. -/
def untilPresent (browser : Browser State) (scroller : Scroller) (direction : Direction)
    (path : Path) : Action State Handle :=
  scroller.untilAccepted browser direction path fun _ => pure true

end Scroller

end Locator
