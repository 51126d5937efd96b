/-
`TableTest.Session.Command` — the methods of a simulated browser

Reads the name of a method and its arguments as a query or an action, and answers it: the
browser as a handle.  A method that is not known with that number of arguments is fatal.
-/
import TableTest.Handle
import TableTest.Session.Action
import TableTest.Session.Query

namespace TableTest.Session

inductive Command where
  | query (q : Query)
  | action (a : Action)
deriving DecidableEq, Repr

namespace Command

/-! ## Methods by the number of their arguments -/

def nullary? : String → Option Command
  | "getTitle" => some (query .title)
  | "getLocation" => some (query .location)
  | "getBodyText" => some (query .bodyText)
  | "getAllLinks" => some (query (.ids .link))
  | "getAllButtons" => some (query (.ids .button))
  | "getAllFields" => some (query (.ids .input))
  | "getCookie" => some (query .cookies)
  | "goBack" => some (action .goBack)
  | "refresh" => some (action .refresh)
  | "windowFocus" => some (action .nothing)
  | "windowMaximize" => some (action .nothing)
  | "deleteAllVisibleCookies" => some (action .clearCookies)
  | _ => none

def unary? (method arg : String) : Option Command :=
  match method with
  | "open" => some (action (.openUrl arg))
  | "click" => some (action (.click arg))
  | "check" => some (action (.check arg))
  | "uncheck" => some (action (.uncheck arg))
  | "submit" => some (action (.submit arg))
  | "getText" => some (query (.text arg))
  | "getValue" => some (query (.value arg))
  | "getAttribute" => some (query (.attribute arg))
  | "getSelectedLabel" => some (query (.selectedLabel arg))
  | "getCookieByName" => some (query (.cookie arg))
  | "isTextPresent" => some (query (.textPresent arg))
  | "isElementPresent" => some (query (.elementPresent arg))
  | "isVisible" => some (query (.visible arg))
  | "isEditable" => some (query (.editable arg))
  | "isChecked" => some (query (.checked arg))
  | "isCookiePresent" => some (query (.cookiePresent arg))
  | "waitForPageToLoad" => some (action (.await arg))
  | "setTimeout" => some (action (.setPace "setTimeout" arg))
  | "setSpeed" => some (action (.setPace "setSpeed" arg))
  | _ => none

def binary? (method first second : String) : Option Command :=
  match method with
  | "type" => some (action (.type first second))
  | "select" => some (action (.select first second))
  | "fireEvent" => some (action (.fireEvent first))
  | "createCookie" => some (action (.createCookie first))
  | "deleteCookie" => some (action (.deleteCookie first))
  | _ => none

/-- The command of a method with its arguments. -/
def ofCall? (method : String) : List String → Option Command
  | [] => nullary? method
  | [arg] => unary? method arg
  | [first, second] => binary? method first second
  | _ => none

/-- Answers a command; an action has nothing to hand back. -/
def answer (site : Site) : Command → Procedure Value
  | query q => .reading (·.ask site q)
  | action a => do
    perform site a
    pure .void

end Command

/-- The answer of a session to an invocation. -/
def invoke (site : Site) (method : String) (args : List String) : Procedure Value :=
  match Command.ofCall? method args with
  | some command => command.answer site
  | none => .reading fun _ =>
    .error (.fatalInvocation method args "not supported by the simulated browser")

def navigate (site : Site) (target : String) : Procedure Unit := load site target

/-- The simulated browser on a site. -/
def handle (site : Site) : Handle Session where
  location s := s.location
  navigate := navigate site
  await timeout s := (s.await site timeout, s)
  invoke := invoke site

end TableTest.Session
