/-
`TableTest.Step` — executable steps

A step is a command bound to a method and its arguments, with what it does around the
invocation.  Executing it yields a value, a domain failure, or a fatal invocation.
-/
import TableTest.Handle

namespace TableTest

/-- Whether a check wants the values to agree or to differ. -/
inductive Expectation where
  | equal
  | notEqual
deriving DecidableEq, Repr

/-- What a step does around its invocation. -/
inductive StepAction where
  /-- Hands the result back. -/
  | invoke
  /-- Compares the result with an expected text. -/
  | compare (expected : String) (expectation : Expectation)
  /-- Waits for the page afterwards. -/
  | invokeAndWait (timeout : String)
deriving DecidableEq, Repr

/-- A command bound to a method and its arguments. -/
structure Step where
  command : String
  method : String
  args : List String
  action : StepAction
deriving DecidableEq, Repr

/-- The failure of a call as a step reports it: domain failures and fatal invocations stand,
any other failure makes the call fatal. -/
def Failure.ofCall (method : String) (args : List String) (e : Failure) : Failure :=
  match e with
  | .fatalInvocation m as r => .fatalInvocation m as r
  | e => if e.isDomain then e else .fatalInvocation method args e.message

namespace Expectation

/-- Whether a value is as a check wants it. -/
def holds (v : Value) (expected : String) : Expectation → Bool
  | equal => v.agreesWith expected
  | notEqual => !v.agreesWith expected

/-- What a check says about a value that is not as it wants it. -/
def complaint (v : Value) (expected : String) : Expectation → String
  | equal => s!"Expected \"{expected}\" but saw \"{v.display}\" instead"
  | notEqual => s!"Did not expect \"{expected}\" but saw it"

/-- The value, if it is as the check wants it. -/
def check (v : Value) (expected : String) (e : Expectation) : Except Failure Value :=
  if e.holds v expected then .ok v else .error (.assertionFailed (e.complaint v expected))

end Expectation

namespace Step

variable {σ : Type}

/-- The method that waits for the page, as failures name it. -/
def waitMethod : String := "waitForPageToLoad"

def call (h : Handle σ) (step : Step) (s : σ) : Answer σ Value :=
  let (result, s) := h.invoke step.method step.args s
  (result.mapError (.ofCall step.method step.args), s)

/-- Waits for the page, then hands `result` back unless the wait failed. -/
def waitThen (h : Handle σ) (timeout : String) (result : Except Failure Value) (s : σ) :
    Answer σ Value :=
  match h.await timeout s with
  | (.ok (), s) => (result, s)
  | (.error e, s) => (.error (.ofCall waitMethod [timeout] e), s)

/-- Executes a step.  A step that waits does so unless its invocation was fatal. -/
def execute (h : Handle σ) (step : Step) (s : σ) : Answer σ Value :=
  let (result, s) := step.call h s
  match step.action with
  | .invoke => (result, s)
  | .compare expected expectation => (result.bind (expectation.check · expected), s)
  | .invokeAndWait timeout =>
    match result with
    | .error e => if e.isDomain then waitThen h timeout result s else (result, s)
    | .ok _ => waitThen h timeout result s

end Step

end TableTest
