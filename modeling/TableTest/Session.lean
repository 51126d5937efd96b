/-
`TableTest.Session` — the state of a simulated browser

A session is at a page of a site, remembers the pages it came from, and has cookies and a
working copy of the elements of the current page.  Going to a page starts a fresh copy.
-/
import TableTest.Locator

namespace TableTest

/-- The state of a browser on a site. -/
structure Session where
  /-- The address of the current page. -/
  location : Option String := none
  /-- The addresses of the pages before it, the latest first. -/
  history : List String := []
  /-- The elements of the current page as they are now. -/
  elements : List Element := []
  cookies : Dictionary String := {}
deriving DecidableEq, Repr

namespace Session

/-- The failure of a command, with its reason. -/
def refuse {α : Type} (command reason : String) : Except Failure α :=
  .error (.commandFailed command reason)

/-! ## Pages -/

/-- The session at a page; the page before it goes to the history. -/
def arrive (url : String) (page : Page) (s : Session) : Session :=
  { s with
    location := some url
    history := s.location.toList ++ s.history
    elements := page.elements }

def page (site : Site) (s : Session) : Except Failure Page :=
  match s.location.bind site.page? with
  | some page => .ok page
  | none => refuse "page" "no page has been loaded"

/-! ## Elements -/

/-- The position of the element that a locator denotes. -/
def find (s : Session) (locator : String) : Except Failure Nat :=
  (Locator.parse locator).bind fun l =>
    match l.find? s.elements with
    | some i => .ok i
    | none => .error (.elementNotFound locator)

/-- The element that a locator denotes, with its position. -/
def locate (s : Session) (locator : String) : Except Failure (Nat × Element) :=
  (s.find locator).bind fun i =>
    match s.elements[i]? with
    | some e => .ok (i, e)
    | none => .error (.elementNotFound locator)

def element (s : Session) (locator : String) : Except Failure Element :=
  (s.locate locator).map (·.2)

def setElement (i : Nat) (e : Element) (s : Session) : Session :=
  { s with elements := s.elements.set i e }

end Session

end TableTest
