/-
`TableTest.Session.Action` — what can be done in a session

Actions are carried out one thing after the other, and what a failing action has changed by
then stays changed.  Each looks at the session first and changes it last; only going back takes
the latest page off the history before it looks for that page.
-/
import TableTest.Session.Procedure
import TableTest.Text.Decimal

namespace TableTest.Session

inductive Action where
  | goBack
  | refresh
  | nothing
  | clearCookies
  | openUrl (target : String)
  | click (locator : String)
  | check (locator : String)
  | uncheck (locator : String)
  | submit (locator : String)
  | await (timeout : String)
  | setPace (method millis : String)
  | type (locator text : String)
  | select (locator option : String)
  | fireEvent (locator : String)
  | createCookie (pair : String)
  | deleteCookie (name : String)
deriving DecidableEq, Repr

/-! ## Going to a page -/

/-- Goes to the page that a target stands for. -/
def load (site : Site) (target : String) : Procedure Unit := do
  let (url, page) ← .reading fun _ => site.locate target
  .change (·.arrive url page)

/-- Goes to a page for a command of a script, whose failure it is if there is no such page. -/
def openFor (command : String) (site : Site) (target : String) : Procedure Unit :=
  (load site target).mapError fun e => .commandFailed command e.message

/-- Follows the address of an element, if it has one. -/
def follow (command : String) (site : Site) : Option String → Procedure Unit
  | some target => openFor command site target
  | none => pure ()

/-! ## Checkboxes and radios -/

/-- An element without its check, if it is a radio of a group.  Radios of one name are a
group, and so are those without a name. -/
def clearedIn (group : Option String) (e : Element) : Element :=
  if e.kind == .radio && e.name == group then { e with checked := false } else e

/-- The session without a check in a group of radios. -/
def clearGroup (group : Option String) (s : Session) : Session :=
  { s with elements := s.elements.map (clearedIn group) }

/-- The session in which the element at a position is checked or not.  Checking a radio
clears the rest of its group. -/
def setChecked (checked : Bool) (i : Nat) (e : Element) (s : Session) : Session :=
  let s := if e.kind == .radio && checked then s.clearGroup e.name else s
  s.setElement i { e with checked }

def toggle (command : String) (checked : Bool) (locator : String) : Procedure Unit := do
  let (i, e) ← .reading (·.locate locator)
  if e.kind.isToggle then .change (·.setChecked checked i e)
  else .refuse command "Element is not a toggle-button."

/-! ## Links, buttons and forms -/

/-- Clicks a visible element at a position. -/
def clickElement (site : Site) (i : Nat) (e : Element) : Procedure Unit :=
  match e.kind with
  | .checkbox => .change (·.setChecked (!e.checked) i e)
  | .radio => .change (·.setChecked true i e)
  | .link | .button => follow "click" site e.href
  | _ => pure ()

def click (site : Site) (locator : String) : Procedure Unit := do
  let (i, e) ← .reading (·.locate locator)
  if e.visible then clickElement site i e
  else .refuse "click" s!"element {locator} is not visible"

def submit (site : Site) (locator : String) : Procedure Unit := do
  let e ← .reading (·.element locator)
  follow "submit" site e.href

/-! ## Fields -/

def typeInto (locator text : String) : Procedure Unit := do
  let (i, e) ← .reading (·.locate locator)
  if !e.kind.isField || e.kind.isToggle then
    .refuse "type" s!"Element {locator} cannot be typed into"
  else if !e.editable then .refuse "type" "Element is read only"
  else .change (·.setElement i { e with value := text })

/-- The option that an option locator chooses: by position, by label, or as a whole. -/
def chosen? (options : List String) (s : String) : Option String :=
  match Text.splitFirst? '=' s with
  | some ("index", position) => (Text.numeral? position.toList).bind (options[·]?)
  | some ("label", label) | some ("value", label) => options.find? (· == label)
  | _ => options.find? (· == s)

def selectOption (locator option : String) : Procedure Unit := do
  let (i, e) ← .reading (·.locate locator)
  if e.kind == .select then
    match chosen? e.options option with
    | some label => .change (·.setElement i { e with selected := some label })
    | none => .refuse "select" s!"Option '{option}' not found"
  else .refuse "select" s!"Specified element {locator} is not a select"

/-! ## Pages -/

/-- Takes the latest page off the history. -/
def takeLatest : Procedure String := fun s =>
  match s.history with
  | [] => (refuse "goBack" "no previous page", s)
  | latest :: rest => (.ok latest, { s with history := rest })

/-- Goes back to the latest page of the history. -/
def goBack (site : Site) : Procedure Unit := do
  let latest ← takeLatest
  openFor "goBack" site latest
  -- arriving there has put the page that is left into the history
  .change fun s => { s with history := s.history.tail }

/-- Starts the elements of the current page afresh. -/
def refresh (site : Site) : Procedure Unit := do
  let page ← .reading (·.page site)
  .change fun s => { s with elements := page.elements }

/-- Reads a number of milliseconds, white space around it allowed. -/
def readMillis (command text : String) : Except Failure UInt64 :=
  match Text.word? (Text.trim text) with
  | some millis => .ok millis
  | none => refuse command s!"'{text}' is not a number of milliseconds"

/-- Waits for the current page, which is ready at once or never. -/
def await (site : Site) (timeout : String) (s : Session) : Except Failure Unit :=
  (readMillis "waitForPageToLoad" timeout).bind fun millis =>
    (s.page site).bind fun page =>
      if page.ready then .ok ()
      else refuse "waitForPageToLoad" s!"Timed out after {millis}ms"

/-! ## Cookies -/

/-- Sets the cookie that `name=value` gives. -/
def createCookie (pair : String) : Procedure Unit :=
  match Text.splitFirst? '=' pair with
  | some (name, value) =>
    .change fun s => { s with cookies := s.cookies.insert (Text.trim name) (Text.trim value) }
  | none => .refuse "createCookie" s!"Invalid parameter: {pair}"

/-! ## All together -/

def perform (site : Site) : Action → Procedure Unit
  | .goBack => goBack site
  | .refresh => refresh site
  | .nothing => pure ()
  | .clearCookies => .change fun s => { s with cookies := {} }
  | .openUrl target => openFor "open" site target
  | .click locator => click site locator
  | .check locator => toggle "check" true locator
  | .uncheck locator => toggle "uncheck" false locator
  | .submit locator => submit site locator
  | .await timeout => .reading (·.await site timeout)
  | .setPace method millis => .reading fun _ => (readMillis method millis).map fun _ => ()
  | .type locator text => typeInto locator text
  | .select locator option => selectOption locator option
  | .fireEvent locator => .reading fun s => (s.find locator).map fun _ => ()
  | .createCookie pair => createCookie pair
  | .deleteCookie name => .change fun s => { s with cookies := s.cookies.erase name }

end TableTest.Session
