import Locator.Page.Browser

/-!
# Pages with planned faults

A simulated page whose operations fail when they have been planned to, and whose elements can be given
boxes to report in turn. A call that is made to fail does not reach the page, so it leaves no trace in
the log. Once the plan is used up the page answers as it always does.
-/

namespace Locator

set_option autoImplicit false

/-- The operations that can be made to fail. -/
inductive Operation where
  | find
  | findAll
  | click
  | sendKeys
  | clear
  | readAttribute
  | rect
  | isDisplayed
  | scrollBy
  | scrollTo
  | scrollOffset
  | setImplicitTimeout
  deriving DecidableEq

/-- A planned fault: after `skips` calls that pass, `times` calls of the operation fail. -/
structure Fault where
  operation : Operation
  error : Error
  skips : Nat
  times : Nat
  deriving DecidableEq

namespace Fault

/-- The fault after one more of its calls has failed, unless that was the last one. -/
def spent (fault : Fault) : List Fault :=
  if fault.times ≤ 1 then [] else [{ fault with times := fault.times - 1 }]

/-- What a call of an operation meets: the first fault planned for the operation decides. Returns the
error of a call that fails, and the faults that are left. -/
def meet (operation : Operation) : List Fault → Option Error × List Fault
  | [] => (none, [])
  | fault :: others =>
      if fault.operation = operation then
        if 0 < fault.skips then (none, { fault with skips := fault.skips - 1 } :: others)
        else (some fault.error, fault.spent ++ others)
      else
        let (error, others) := meet operation others
        (error, fault :: others)

/-- Where no fault is planned, every call passes. -/
theorem meet_nil (operation : Operation) : meet operation [] = (none, []) := rfl

/-- A fault does not touch the calls of another operation. -/
theorem meet_of_ne {operation : Operation} {fault : Fault} (others : List Fault)
    (different : fault.operation ≠ operation) :
    meet operation (fault :: others) =
      ((meet operation others).1, fault :: (meet operation others).2) := by
  simp [meet, different]

end Fault

/-- A page, the faults planned for it, and the boxes that elements report before their own. -/
structure FaultyPage where
  page : Page := {}
  faults : List Fault := []
  boxes : Keyed (List Rect) := .empty
  deriving DecidableEq

namespace FaultyPage

/-- Plans one more fault, after those there are. -/
def plan (faulty : FaultyPage) (fault : Fault) : FaultyPage :=
  { faulty with faults := faulty.faults ++ [fault] }

/-- Adds boxes for an element to report, after those there are. -/
def script (faulty : FaultyPage) (handle : Handle) (boxes : List Rect) : FaultyPage :=
  let earlier := (faulty.boxes.get? handle.id).getD []
  { faulty with boxes := faulty.boxes.insert handle.id (earlier ++ boxes) }

/-- Changes the page behind the faults. -/
def onPage {Value : Type} (action : Action Page Value) : Action FaultyPage Value :=
  action.onPart FaultyPage.page fun page faulty => { faulty with page }

/-- Runs an action unless a fault is planned for the operation. -/
def guarded {Value : Type} (operation : Operation) (action : Action FaultyPage Value) :
    Action FaultyPage Value :=
  fun faulty =>
    let (error, faults) := Fault.meet operation faulty.faults
    let faulty := { faulty with faults }
    match error with
    | some error => (.error error, faulty)
    | none => action.outcome faulty

/-- The box of an element: the next one that was scripted, or its own. -/
def rect (handle : Handle) : Action FaultyPage Rect :=
  fun faulty =>
    match faulty.boxes.get? handle.id with
    | some (box :: later) => (.ok box, { faulty with boxes := faulty.boxes.insert handle.id later })
    | _ => (onPage (Page.browser.rect handle)).outcome faulty

/-- The operations of a page with planned faults. -/
def browser : Browser FaultyPage where
  find path := guarded .find (onPage (Page.browser.find path))
  findAll path := guarded .findAll (onPage (Page.browser.findAll path))
  click handle := guarded .click (onPage (Page.browser.click handle))
  sendKeys handle keys := guarded .sendKeys (onPage (Page.browser.sendKeys handle keys))
  clear handle := guarded .clear (onPage (Page.browser.clear handle))
  attribute? handle name := guarded .readAttribute (onPage (Page.browser.attribute? handle name))
  rect handle := guarded .rect (rect handle)
  isDisplayed handle := guarded .isDisplayed (onPage (Page.browser.isDisplayed handle))
  scrollBy handle dx dy := guarded .scrollBy (onPage (Page.browser.scrollBy handle dx dy))
  scrollTo handle x y := guarded .scrollTo (onPage (Page.browser.scrollTo handle x y))
  scrollOffset handle := guarded .scrollOffset (onPage (Page.browser.scrollOffset handle))
  setImplicitTimeout milliseconds :=
    guarded .setImplicitTimeout (onPage (Page.browser.setImplicitTimeout milliseconds))
  implicitTimeout faulty := faulty.page.implicitTimeout

end FaultyPage

end Locator
