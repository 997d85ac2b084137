import Locator.Browser.Basic
import Locator.Keyed

/-!
# Simulated pages

A page that lives in memory and answers a browser's operations. Paths are not matched against a
document: what a path finds has been registered for its XPath text, always or only while a container is
scrolled into a window. Calls are recorded in a log.
-/

namespace Locator

set_option autoImplicit false

/-- How the value of an element reacts to keys. -/
inductive KeyResponse where
  /-- Keys append to the value, the backspace key removes its last character. -/
  | editable
  /-- Keys do nothing. -/
  | frozen
  /-- Each time keys arrive, the value becomes the next one of the script; after its end the element is
  editable. -/
  | scripted (values : List String)
  deriving DecidableEq

/-- An element of a page. -/
structure Element where
  tag : String := "div"
  attributes : Keyed String := .empty
  value : String := ""
  rect : Rect := ⟨0, 0, 100, 20⟩
  displayed : Bool := true
  keys : KeyResponse := .editable
  /-- Whether clearing empties the value. -/
  clears : Bool := true
  /-- How far the content can be scrolled. -/
  extent : Offset := .zero
  /-- The container whose content the element is placed on. -/
  anchor : Option Handle := none
  deriving DecidableEq

/-- A range of integers with both ends; an end that is missing is no bound. -/
structure Span where
  least : Option Int := none
  greatest : Option Int := none
  deriving DecidableEq

/-- Whether a number is in the range. -/
def Span.contains (span : Span) (value : Int) : Bool :=
  span.least.all (· ≤ value) && span.greatest.all (value ≤ ·)

/-- Every number from `least` to `greatest`. -/
def Span.between (least greatest : Int) : Span :=
  ⟨some least, some greatest⟩

/-- A range of scroll offsets of a container. -/
structure Window where
  container : Handle
  x : Span := {}
  y : Span := {}
  deriving DecidableEq

/-- Elements that a query finds, always or while a window holds. -/
structure Rule where
  handles : List Handle
  window : Option Window := none
  deriving DecidableEq

/-- A recorded call of a browser operation. -/
inductive Call where
  | find (xpath : String)
  | findAll (xpath : String)
  | click (handle : Handle)
  | sendKeys (handle : Handle) (keys : String)
  | clear (handle : Handle)
  | scrollBy (handle : Handle) (dx dy : Int)
  | scrollTo (handle : Handle) (x y : Option Int)
  | setImplicitTimeout (milliseconds : Nat)
  deriving DecidableEq

/-- A place that may be missing, as it is written in the log. -/
def placeText : Option Int → String
  | none => "None"
  | some place => "Some(" ++ toString place ++ ")"

namespace Call

/-- The name of the operation. -/
def method : Call → String
  | .find _ => "find"
  | .findAll _ => "find_all"
  | .click _ => "click"
  | .sendKeys _ _ => "send_keys"
  | .clear _ => "clear"
  | .scrollBy _ _ _ => "scroll_by"
  | .scrollTo _ _ _ => "scroll_to"
  | .setImplicitTimeout _ => "set_implicit_timeout"

/-- The arguments of the call. -/
def arguments : Call → String
  | .find xpath => xpath
  | .findAll xpath => xpath
  | .click handle => handle.id
  | .sendKeys handle keys => handle.id ++ ":" ++ keys
  | .clear handle => handle.id
  | .scrollBy handle dx dy => handle.id ++ ":" ++ toString dx ++ "," ++ toString dy
  | .scrollTo handle x y => handle.id ++ ":" ++ placeText x ++ "," ++ placeText y
  | .setImplicitTimeout milliseconds => toString milliseconds

/-- The call as an entry of the log. -/
def text (call : Call) : String :=
  call.method ++ ":" ++ call.arguments

end Call

/-- A page. -/
structure Page where
  elements : Keyed Element := .empty
  /-- The scroll offsets of the containers that have been scrolled. -/
  offsets : Keyed Offset := .empty
  /-- The rules for each XPath text, in the order of registration. -/
  rules : Keyed (List Rule) := .empty
  /-- In milliseconds. -/
  implicitTimeout : Nat := 0
  /-- The recorded calls, the latest first. -/
  log : List Call := []
  deriving DecidableEq

namespace Page

/-- The page with one more recorded call. -/
def record (page : Page) (call : Call) : Page :=
  { page with log := call :: page.log }

/-- The recorded calls in the order they were made. -/
def history (page : Page) : List String :=
  (page.log.map Call.text).reverse

/-- The recorded calls of one operation. -/
def callsTo (page : Page) (method : String) : List String :=
  page.history.filter fun entry => (method ++ ":").toList.isPrefixOf entry.toList

/-- Whether an operation was called. -/
def wasCalled (page : Page) (method : String) : Bool :=
  !(page.callsTo method).isEmpty

/-- The page without its recorded calls. -/
def clearHistory (page : Page) : Page :=
  { page with log := [] }

/-- Adds an element under an id of its own. -/
def add (page : Page) (handle : Handle) (element : Element) : Page :=
  { page with elements := page.elements.insert handle.id element }

/-- Adds a rule for an XPath text, after the rules there are. -/
def registerXPath (page : Page) (xpath : String) (rule : Rule) : Page :=
  let earlier := (page.rules.get? xpath).getD []
  { page with rules := page.rules.insert xpath (earlier ++ [rule]) }

/-- Adds a rule for a path. -/
def register (page : Page) (path : Path) (rule : Rule) : Page :=
  page.registerXPath path.toXPath rule

/-- Forgets all rules for a path. -/
def unregister (page : Page) (path : Path) : Page :=
  { page with rules := page.rules.erase path.toXPath }

/-- The scroll offset of a container. -/
def offset (page : Page) (handle : Handle) : Offset :=
  (page.offsets.get? handle.id).getD .zero

/-- Whether the container of a window is scrolled into it. -/
def windowHolds (page : Page) (window : Window) : Bool :=
  let offset := page.offset window.container
  window.x.contains offset.x && window.y.contains offset.y

/-- Whether a rule applies as the page is scrolled. -/
def applies (page : Page) (rule : Rule) : Bool :=
  rule.window.all page.windowHolds

/-- The handles in order, each where it is met first. -/
def firstMentions (handles : List Handle) : List Handle :=
  handles.foldl (fun found handle => if found.contains handle then found else found ++ [handle]) []

/-- What a query finds: the elements of the rules that apply, in the order of registration, each
once. -/
def resolve (page : Page) (xpath : String) : List Handle :=
  let rules := (page.rules.get? xpath).getD []
  firstMentions ((rules.filter page.applies).flatMap Rule.handles)

/-- The element of a handle; an element that is not on the page is stale. -/
def element? (page : Page) (handle : Handle) : Except Error Element :=
  match page.elements.get? handle.id with
  | none => .error ⟨.driver, "stale element " ++ handle.id⟩
  | some element => .ok element

/-- The value of an element, empty when it is not on the page. -/
def value (page : Page) (handle : Handle) : String :=
  ((page.elements.get? handle.id).map Element.value).getD ""

/-- Replaces the value of an element without recording a call. -/
def setValue (page : Page) (handle : Handle) (value : String) : Page :=
  match page.elements.get? handle.id with
  | none => page
  | some element => page.add handle { element with value }

end Page

end Locator
