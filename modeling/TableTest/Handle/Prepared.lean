/-
`TableTest.Handle.Prepared` — a handle with prepared answers

The answers are given beforehand, a list for each method.  A method takes them one by one
and stays at its last one; a method without answers hands back nothing.
-/
import TableTest.Handle

namespace TableTest

/-- Prepared answers, and the address of the current page. -/
structure Prepared where
  location : Option String := none
  answers : List (String × List (Except Failure Value)) := []

namespace Prepared

/-- The list after one answer has been taken: the last answer stays. -/
def rest {α : Type} : List α → List α
  | [] => []
  | [a] => [a]
  | _ :: as => as

def advance (method : String) (p : Prepared) : Prepared :=
  { p with answers := p.answers.map fun (m, as) => (m, if m == method then rest as else as) }

/-- Takes the next answer of a method. -/
def take (method : String) (p : Prepared) : Answer Prepared Value :=
  match p.answers.lookup method with
  | some (answer :: _) => (answer, p.advance method)
  | _ => (.ok .void, p)

/-- An answer of which only success or failure counts. -/
def outcome (answer : Answer Prepared Value) : Answer Prepared Unit :=
  (answer.1.map fun _ => (), answer.2)

/-- Going to an address takes an answer of `navigate:` and moves there on success. -/
def goTo (url : String) (p : Prepared) : Answer Prepared Unit :=
  match outcome (p.take "navigate:") with
  | (.ok (), p) => (.ok (), { p with location := some url })
  | failed => failed

/-- The handle on prepared answers; waiting takes the answers of `wait:`. -/
def handle : Handle Prepared where
  location p := p.location
  navigate := goTo
  await _ p := outcome (p.take "wait:")
  invoke method _ p := p.take method

end Prepared

end TableTest
