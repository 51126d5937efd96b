/-
`TableTest.Site` — a site held in memory

A site is a list of pages, each with its elements and, on script pages, a script table.
Several pages may have the same address; the first of them is the one that is shown.
-/
import TableTest.Dictionary
import TableTest.Failure
import TableTest.Row
import TableTest.Text.Affix

namespace TableTest

/-- What an element is. -/
inductive ElementKind where
  | label
  | input
  | checkbox
  | radio
  | select
  | link
  | button
deriving DecidableEq, Repr

namespace ElementKind

/-- The name of the kind in a suite file. -/
def name : ElementKind → String
  | label => "label"
  | input => "input"
  | checkbox => "checkbox"
  | radio => "radio"
  | select => "select"
  | link => "link"
  | button => "button"

def all : List ElementKind := [label, input, checkbox, radio, select, link, button]

def ofName? (s : String) : Option ElementKind :=
  all.find? (·.name == s)

/-- Whether elements of the kind can be checked. -/
def isToggle : ElementKind → Bool
  | checkbox | radio => true
  | _ => false

/-- Whether elements of the kind are form fields. -/
def isField : ElementKind → Bool
  | input | checkbox | radio | select => true
  | _ => false

end ElementKind

/-- An element of a page. -/
structure Element where
  id : Option String := none
  name : Option String := none
  kind : ElementKind := .label
  text : String := ""
  value : String := ""
  checked : Bool := false
  visible : Bool := true
  editable : Bool := true
  options : List String := []
  selected : Option String := none
  href : Option String := none
  attributes : Dictionary String := {}
deriving DecidableEq, Repr

namespace Element

/-- The attributes that an element has without listing them. -/
def ownAttribute? (e : Element) : String → Option String
  | "id" => e.id
  | "name" => e.name
  | "href" => e.href
  | "value" => some e.value
  | _ => none

/-- An attribute of the element; the listed ones go before its own. -/
def attribute? (e : Element) (name : String) : Option String :=
  (e.attributes.get? name).or (e.ownAttribute? name)

end Element

structure Page where
  url : String
  title : String := ""
  text : String := ""
  elements : List Element := []
  script : List (List String) := []
  ready : Bool := true
deriving DecidableEq, Repr

structure Site where
  baseUrl : Option String := none
  pages : List Page := []
deriving DecidableEq, Repr

namespace Site

/-- The address that a target stands for: one that begins with a slash is put after the base
address, less the slashes at its end. -/
def resolveUrl (site : Site) (target : String) : String :=
  match site.baseUrl with
  | some base => if Text.startsWith "/" target then Text.dropTail '/' base ++ target else target
  | none => target

def page? (site : Site) (url : String) : Option Page :=
  site.pages.find? (·.url == url)

/-- The address and the page that a target stands for. -/
def locate (site : Site) (target : String) : Except Failure (String × Page) :=
  let url := site.resolveUrl target
  match site.page? url with
  | some page => .ok (url, page)
  | none => .error (.navigation url "no such page")

/-- The script of the page that a target stands for. -/
def loadRows (site : Site) (target : String) : Except Failure (List Row) :=
  (site.locate target).map fun (_, page) => Row.ofTable page.script

end Site

end TableTest
