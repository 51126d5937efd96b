/-
`TableTest.Session.Query` — what a session can be asked

A query is answered from the state of the session and leaves it as it is.
-/
import TableTest.Session
import TableTest.Value

namespace TableTest

namespace Element

/-- The label of the chosen option: the first one, if none has been chosen. -/
def selectedLabel? (e : Element) : Option String :=
  e.selected.or e.options.head?

/-- The value of the element as a form sends it. -/
def fieldValue (e : Element) : String :=
  match e.kind with
  | .checkbox | .radio => if e.checked then "on" else "off"
  | .select => e.selectedLabel?.getD ""
  | _ => e.value

end Element

namespace Session

inductive Query where
  | title
  | location
  | bodyText
  | ids (kind : ElementKind)
  | cookies
  | text (locator : String)
  | value (locator : String)
  | attribute (path : String)
  | selectedLabel (locator : String)
  | cookie (name : String)
  | textPresent (pattern : String)
  | elementPresent (locator : String)
  | visible (locator : String)
  | editable (locator : String)
  | checked (locator : String)
  | cookiePresent (name : String)
deriving DecidableEq, Repr

/-- The ids of the elements of a kind; an element without one counts as empty text. -/
def idsOf (kind : ElementKind) (s : Session) : Value :=
  .list ((s.elements.filter (·.kind == kind)).map fun e => e.id.getD "")

/-- All cookies in one text. -/
def cookieText (s : Session) : String :=
  "; ".intercalate (s.cookies.entries.map fun (name, value) => name ++ "=" ++ value)

/-- The attribute that `locator@name` denotes; the last `@` counts. -/
def attributeAt (s : Session) (path : String) : Except Failure Value :=
  match Text.splitLast? '@' path with
  | none => refuse "getAttribute" s!"'{path}' is not of the form element@attribute"
  | some (locator, name) =>
    (s.element locator).bind fun e =>
      match e.attribute? name with
      | some value => .ok (.text value)
      | none => refuse "getAttribute" s!"Could not find element attribute: {path}"

def labelAt (s : Session) (locator : String) : Except Failure Value :=
  (s.element locator).bind fun e =>
    if e.kind == .select then
      match e.selectedLabel? with
      | some label => .ok (.text label)
      | none => refuse "getSelectedLabel" "No option selected"
    else refuse "getSelectedLabel" s!"Specified element {locator} is not a select"

/-- Whether a text occurs on the page or in an element that is visible. -/
def hasText (page : Page) (pattern : String) (s : Session) : Bool :=
  Text.contains pattern page.text ||
    s.elements.any fun e => e.visible && Text.contains pattern e.text

def isPresent (s : Session) (locator : String) : Except Failure Value :=
  match s.find locator with
  | .ok _ => .ok (.flag true)
  | .error (.elementNotFound _) => .ok (.flag false)
  | .error e => .error e

def checkedAt (s : Session) (locator : String) : Except Failure Value :=
  (s.element locator).bind fun e =>
    if e.kind.isToggle then .ok (.flag e.checked)
    else refuse "isChecked" "Element is not a toggle-button."

def ask (site : Site) (s : Session) : Query → Except Failure Value
  | .title => (s.page site).map fun page => .text page.title
  | .location =>
    match s.location with
    | some url => .ok (.text url)
    | none => refuse "getLocation" "no page has been loaded"
  | .bodyText => (s.page site).map fun page => .text page.text
  | .ids kind => .ok (s.idsOf kind)
  | .cookies => .ok (.text s.cookieText)
  | .text locator => (s.element locator).map fun e => .text e.text
  | .value locator => (s.element locator).map fun e => .text e.fieldValue
  | .attribute path => s.attributeAt path
  | .selectedLabel locator => s.labelAt locator
  | .cookie name => .ok ((s.cookies.get? name).elim .void .text)
  | .textPresent pattern => (s.page site).map fun page => .flag (s.hasText page pattern)
  | .elementPresent locator => s.isPresent locator
  | .visible locator => (s.element locator).map fun e => .flag e.visible
  | .editable locator => (s.element locator).map fun e => .flag (e.kind.isField && e.editable)
  | .checked locator => s.checkedAt locator
  | .cookiePresent name => .ok (.flag (s.cookies.contains name))

end Session

end TableTest
