/-
`TableTest.Locator` — how scripts name elements

A locator is a strategy and a value.  A text without a known strategy before its first `=` is
an identifier: an id anywhere on the page, or else a name.
-/
import TableTest.Site

namespace TableTest

/-- The name of an element. -/
inductive Locator where
  | id (value : String)
  | name (value : String)
  | link (text : String)
  | identifier (value : String)
deriving DecidableEq, Repr

namespace Locator

/-- The strategies that the simulated browser does not have. -/
def unsupported : List String := ["xpath", "css", "dom", "ui"]

/-- The failure of a locator with an unsupported strategy. -/
def refusal (s strategy : String) : Failure :=
  .commandFailed "locate" s!"unsupported locator strategy '{strategy}' in '{s}'"

/-- The locator of a text with a strategy; `s` is the whole text. -/
def ofStrategy (s strategy value : String) : Except Failure Locator :=
  match strategy with
  | "id" => .ok (.id value)
  | "name" => .ok (.name value)
  | "link" => .ok (.link value)
  | "identifier" => .ok (.identifier value)
  | _ => if unsupported.contains strategy then .error (refusal s strategy) else .ok (.identifier s)

def parse (s : String) : Except Failure Locator :=
  if Text.startsWith "//" s then .error (refusal s "xpath")
  else if Text.startsWith "document." s then .error (refusal s "dom")
  else
    match Text.splitFirst? '=' s with
    | some (strategy, value) => ofStrategy s strategy value
    | none => .ok (.identifier s)

def render : Locator → String
  | id value => "id=" ++ value
  | name value => "name=" ++ value
  | link text => "link=" ++ text
  | identifier value => value

def findId? (id : String) (es : List Element) : Option Nat :=
  es.findIdx? (·.id == some id)

def findName? (name : String) (es : List Element) : Option Nat :=
  es.findIdx? (·.name == some name)

/-- The position of the first link with a text. -/
def findLink? (text : String) (es : List Element) : Option Nat :=
  es.findIdx? fun e => e.kind == .link && e.text == text

/-- The position of the element that the locator names. -/
def find? (es : List Element) : Locator → Option Nat
  | id value => findId? value es
  | name value => findName? value es
  | link text => findLink? text es
  | identifier value => (findId? value es).or (findName? value es)

end Locator

end TableTest
