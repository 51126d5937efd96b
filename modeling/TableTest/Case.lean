/-
`TableTest.Case` — running one test case

A case goes to its page unless the handle is there already, loads and resolves the script of
the page as a whole, and executes the steps in order.  The first domain failure ends it as a
failed case; any other failure aborts it, and then nothing is recorded.
-/
import TableTest.Case.Results
import TableTest.Catalog

namespace TableTest

/-- The stages of a run, as reports name them. -/
inductive RunState where
  | notStarted
  | navigated
  | resolving
  | executing
  | completed
  | aborted
deriving DecidableEq, Repr

namespace RunState

def all : List RunState := [notStarted, navigated, resolving, executing, completed, aborted]

def display : RunState → String
  | notStarted => "not started"
  | navigated => "navigated"
  | resolving => "resolving"
  | executing => "executing"
  | completed => "completed"
  | aborted => "aborted"

/-- The stage as a field of a report. -/
def key : RunState → String
  | notStarted => "not_started"
  | s => s.display

end RunState

/-- The report of a case that ran to its end. -/
structure CaseReport where
  name : String
  url : String
  state : RunState
  passed : Bool
  stepsRun : Nat
  stepsTotal : Nat
  failure : Option String
deriving DecidableEq, Repr

/-- A test case: a script page under a name. -/
structure Case where
  name : String
  url : String
deriving DecidableEq, Repr

/-- Gives the script rows of an address. -/
abbrev Loader := String → Except Failure (List Row)

/-- What became of a run: its report or the failure that aborted it, the state it left, and
the results with its record. -/
structure CaseRun (σ : Type) where
  outcome : Except Failure CaseReport
  state : σ
  results : Results

namespace Case

variable {σ : Type}

def passed (case : Case) (steps : Nat) : CaseReport :=
  ⟨case.name, case.url, .completed, true, steps, steps, none⟩

/-- The report of a case whose step number `k` failed. -/
def failed (case : Case) (k total : Nat) (reason : String) : CaseReport :=
  ⟨case.name, case.url, .completed, false, k, total, some reason⟩

/-- What a report says about the step that failed. -/
def failureText (k : Nat) (step : Step) (e : Failure) : String :=
  s!"Step {k} ({step.command}): {e.message}"

/-- How the execution of steps ended. -/
inductive Ending where
  /-- Every step succeeded. -/
  | allPassed
  /-- The step of that number failed. -/
  | stopped (k : Nat) (step : Step) (e : Failure)
deriving DecidableEq, Repr

/-- Executes steps until one fails; `k` is the number of the first. -/
def executeAll (h : Handle σ) (k : Nat) : List Step → σ → Ending × σ
  | [], s => (.allPassed, s)
  | step :: steps, s =>
    match step.execute h s with
    | (.ok _, s) => executeAll h (k + 1) steps s
    | (.error e, s) => (.stopped k step e, s)

/-- The report and the record of an execution. -/
def conclude (case : Case) (total : Nat) (results : Results) :
    Ending → Except Failure CaseReport × Results
  | .allPassed => (.ok (case.passed total), results.success)
  | .stopped k step e =>
    if e.isDomain then
      let reason := failureText k step e
      (.ok (case.failed k total reason), results.failure reason)
    else (.error e, results)

/-- Goes to the page of the case, unless the handle is there. -/
def goTo (h : Handle σ) (case : Case) (s : σ) : Answer σ Unit :=
  if h.location s = some case.url then (.ok (), s) else h.navigate case.url s

def steps (catalog : Catalog) (load : Loader) (case : Case) : Except Failure (List Step) :=
  (load case.url).bind catalog.resolve

/-- Runs a case and records its outcome. -/
def run (catalog : Catalog) (load : Loader) (h : Handle σ) (case : Case) (s : σ)
    (results : Results) : CaseRun σ :=
  match case.goTo h s with
  | (.error e, s) => ⟨.error e, s, results⟩
  | (.ok (), s) =>
    match case.steps catalog load with
    | .error e => ⟨.error e, s, results⟩
    | .ok steps =>
      let (ending, s) := executeAll h 1 steps s
      let (outcome, results) := case.conclude steps.length results ending
      ⟨outcome, s, results⟩

end Case

end TableTest
