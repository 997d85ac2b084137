import Locator.Page.Basic

/-!
# A page as a browser

What each browser operation does to a simulated page. A call is recorded before it can fail, but for a
click, which is recorded once the element is known to be there. Reading attributes, boxes, visibility and
offsets is not recorded.
-/

namespace Locator

set_option autoImplicit false

/-- What typing one key leaves of a value. The cursor stays at the end, so deleting forward does
nothing. -/
def typeKey (value : List Char) (key : Char) : List Char :=
  if key = Key.backspace then value.dropLast
  else if key = Key.delete ∨ key = Key.enter then value
  else value ++ [key]

/-- What typing keys leaves of a value. -/
def typeKeys (value keys : String) : String :=
  String.ofList (keys.toList.foldl typeKey value.toList)

namespace Element

/-- The element after keys have arrived. -/
def receive (element : Element) (keys : String) : Element :=
  match element.keys with
  | .frozen => element
  | .editable => { element with value := typeKeys element.value keys }
  | .scripted (next :: later) => { element with value := next, keys := .scripted later }
  | .scripted [] => { element with value := typeKeys element.value keys }

/-- The element after it has been cleared. -/
def cleared (element : Element) : Element :=
  if element.clears then { element with value := "" } else element

/-- The attribute with the given name; `value` is the current value. -/
def attribute? (element : Element) (name : String) : Option String :=
  if name = "value" then some element.value else element.attributes.get? name

/-- A place on one axis, moved into the range that can be scrolled. -/
def clamp (extent place : Int) : Int :=
  max 0 (min place (max 0 extent))

/-- An offset, moved into the range that can be scrolled. -/
def clampOffset (element : Element) (offset : Offset) : Offset :=
  ⟨clamp element.extent.x offset.x, clamp element.extent.y offset.y⟩

end Element

namespace Page

/-- The box of an element, moved by the offset of the container it is placed in. -/
def rect (page : Page) (element : Element) : Rect :=
  match element.anchor with
  | none => element.rect
  | some container =>
      let offset := page.offset container
      { element.rect with
        x := wrapped (element.rect.x - offset.x), y := wrapped (element.rect.y - offset.y) }

/-- Scrolls an element to an offset, as far as its content goes. -/
def setOffset (page : Page) (handle : Handle) (offset : Offset) : Except Error Page :=
  match page.element? handle with
  | .error error => .error error
  | .ok element =>
      .ok { page with offsets := page.offsets.insert handle.id (element.clampOffset offset) }

/-- Changes an element that has to be on the page. -/
def modify (page : Page) (handle : Handle) (change : Element → Element) : Except Error Page :=
  match page.element? handle with
  | .error error => .error error
  | .ok element => .ok (page.add handle (change element))

/-- Records a call, then changes the page by a step that may fail. -/
def recorded (call : Call) (change : Page → Except Error Page) : Action Page Unit :=
  fun page =>
    let page := page.record call
    match change page with
    | .error error => (.error error, page)
    | .ok page => (.ok (), page)

/-- Reads something off an element that has to be on the page. -/
def onElement {Value : Type} (handle : Handle) (read : Page → Element → Value) : Action Page Value :=
  fun page =>
    match page.element? handle with
    | .error error => (.error error, page)
    | .ok element => (.ok (read page element), page)

/-- The first match of a path. -/
def find (path : Path) : Action Page Handle :=
  fun page =>
    let xpath := path.toXPath
    let page := page.record (.find xpath)
    match page.resolve xpath with
    | [] => (.error ⟨.notFound, xpath⟩, page)
    | first :: _ => (.ok first, page)

/-- All matches of a path. -/
def findAll (path : Path) : Action Page (List Handle) :=
  fun page =>
    let xpath := path.toXPath
    let page := page.record (.findAll xpath)
    (.ok (page.resolve xpath), page)

/-- Clicks an element. -/
def click (handle : Handle) : Action Page Unit :=
  fun page =>
    match page.element? handle with
    | .error error => (.error error, page)
    | .ok _ => (.ok (), page.record (.click handle))

/-- Where an offset is moved to by a place for each axis. -/
def placed (offset : Offset) (x y : Option Int) : Offset :=
  ⟨x.getD offset.x, y.getD offset.y⟩

/-- The operations of a page. -/
def browser : Browser Page where
  find
  findAll
  click
  sendKeys handle keys :=
    recorded (.sendKeys handle keys) fun page => page.modify handle (·.receive keys)
  clear handle := recorded (.clear handle) fun page => page.modify handle Element.cleared
  attribute? handle name := onElement handle fun _ element => element.attribute? name
  rect handle := onElement handle fun page element => page.rect element
  isDisplayed handle := onElement handle fun _ element => element.displayed
  scrollBy handle dx dy :=
    recorded (.scrollBy handle dx dy) fun page =>
      let offset := page.offset handle
      page.setOffset handle ⟨wrapped (offset.x + dx), wrapped (offset.y + dy)⟩
  scrollTo handle x y :=
    recorded (.scrollTo handle x y) fun page =>
      page.setOffset handle (placed (page.offset handle) x y)
  scrollOffset handle := onElement handle fun page _ => page.offset handle
  setImplicitTimeout milliseconds :=
    recorded (.setImplicitTimeout milliseconds) fun page =>
      .ok { page with implicitTimeout := milliseconds }
  implicitTimeout := Page.implicitTimeout

end Page

end Locator
