import Locator.Path.Build

/-!
# Paths for HTML tags

One path for each common tag, and short names for frequent structural lookups.
-/

namespace Locator.Html

set_option autoImplicit false

/-- Every element. -/
def element : Path := .any

def div : Path := .tag "div"
def span : Path := .tag "span"
def input : Path := .tag "input"
def button : Path := .tag "button"
def label : Path := .tag "label"
def select : Path := .tag "select"
def option : Path := .tag "option"
def form : Path := .tag "form"
def html : Path := .tag "html"
def body : Path := .tag "body"
def anchor : Path := .tag "a"
def image : Path := .tag "img"
def unorderedList : Path := .tag "ul"
def listItem : Path := .tag "li"
def table : Path := .tag "table"
def tableRow : Path := .tag "tr"
def tableCell : Path := .tag "td"
def tableHeading : Path := .tag "th"
def header : Path := .tag "header"
def footer : Path := .tag "footer"
def «section» : Path := .tag "section"
def textArea : Path := .tag "textarea"
def inlineFrame : Path := .tag "iframe"
def canvas : Path := .tag "canvas"
def svg : Path := .tag "svg"
def paragraph : Path := .tag "p"
def heading1 : Path := .tag "h1"
def heading2 : Path := .tag "h2"
def heading3 : Path := .tag "h3"

/-- The parents of the nodes of a path. -/
def parentOf (path : Path) : Path :=
  element.parentOf path

/-- The children of the nodes of a path. -/
def childOf (path : Path) : Path :=
  element.childOf path

/-- The ancestors of the nodes of a path. -/
def ancestorOf (path : Path) : Path :=
  element.containing path

/-- The siblings of the nodes of a path. -/
def siblingOf (path : Path) : Path :=
  element.and (.siblingOf path)

end Locator.Html
