/-
`TableTest.Suite.Run` — running a suite

Every case runs in a session of its own, so the cases share nothing.  What they come to is
collected in any order and reported in the order of the suite.  Before the first case is started
a semaphore is made, with a permit for each case that may run at once; asking for more permits
than a semaphore can have ends the program.
-/
import TableTest.Session.Capabilities
import TableTest.Session.Command
import TableTest.Suite

namespace TableTest

structure AbortedCase where
  name : String
  url : String
  code : String
  error : String
deriving DecidableEq, Repr

/-- What became of a case. -/
inductive CaseOutcome where
  | finished (report : CaseReport)
  | aborted (case : AbortedCase)
deriving DecidableEq, Repr

def CaseOutcome.isAborted : CaseOutcome → Bool
  | finished _ => false
  | aborted _ => true

/-- A case that has been run: its place in the suite, what became of it, and its own results. -/
structure Finished where
  index : Nat
  outcome : CaseOutcome
  results : Results
deriving DecidableEq, Repr

structure SuiteReport where
  name : String
  results : Results := {}
  cases : List CaseReport := []
  aborted : List AbortedCase := []
  /-- How many cases were not started because one had aborted. -/
  skipped : Nat := 0
deriving DecidableEq, Repr

/-- Whether every case was run and passed. -/
def SuiteReport.isSuccess (report : SuiteReport) : Bool :=
  report.results.isSuccess && report.aborted.isEmpty && report.skipped == 0

namespace Suite

def outcomeOf (case : Case) : Except Failure CaseReport → CaseOutcome
  | .ok report => .finished report
  | .error e => .aborted ⟨case.name, case.url, e.code, e.message⟩

/-- Runs a case by itself, in a new session. -/
def runAlone (catalog : Catalog) (site : Site) (case : Case) : CaseRun Session :=
  case.run catalog site.loadRows (Session.handle site) {} {}

def runAt (catalog : Catalog) (site : Site) (index : Nat) (case : Case) : Finished :=
  let run := runAlone catalog site case
  ⟨index, outcomeOf case run.outcome, run.results⟩

/-- Runs cases from a place on; failing fast, none is started after one has aborted. -/
def runFrom (catalog : Catalog) (site : Site) (failFast : Bool) :
    Nat → List Case → List Finished
  | _, [] => []
  | index, case :: cases =>
    let run := runAt catalog site index case
    if failFast && run.outcome.isAborted then [run]
    else run :: runFrom catalog site failFast (index + 1) cases

/-- The report with one more case. -/
def addTo (report : SuiteReport) (run : Finished) : SuiteReport :=
  let report := { report with results := report.results.merge run.results }
  match run.outcome with
  | .finished case => { report with cases := report.cases ++ [case] }
  | .aborted case => { report with aborted := report.aborted ++ [case] }

/-- The report of the collected cases, in whatever order they were collected. -/
def collect (name : String) (total : Nat) (runs : List Finished) : SuiteReport :=
  (runs.mergeSort fun a b => a.index ≤ b.index).foldl addTo
    { name, skipped := total - runs.length }

/-- Runs a suite with a catalog. -/
def runWith (catalog : Catalog) (failFast : Bool) (suite : Suite) : SuiteReport :=
  collect suite.name suite.cases.length (runFrom catalog suite.site failFast 0 suite.cases)

/-- Runs a suite that has its permits.  How many there are does not show in the report. -/
def run (settings : Settings) (suite : Suite) : Except Failure SuiteReport :=
  (Session.catalog settings.catalog).map fun catalog =>
    suite.runWith catalog settings.runner.failFast

end Suite

/-! ## Permits -/

/-- Where semaphores come from. -/
structure Semaphores where
  /-- The most permits that a semaphore can have. -/
  maxPermits : Nat := 2305843009213693951
  /-- What is told when more are asked for. -/
  complaint : String :=
    "a semaphore may not have more than MAX_PERMITS permits (2305843009213693951)"
  maxPermits_pos : 0 < maxPermits := by decide

/-- Whether a run gets the permits that it asks for. -/
def Semaphores.Grants (semaphores : Semaphores) (runner : RunnerSettings) : Prop :=
  runner.permits ≤ semaphores.maxPermits

instance (semaphores : Semaphores) (runner : RunnerSettings) :
    Decidable (semaphores.Grants runner) :=
  inferInstanceAs (Decidable (_ ≤ _))

/-- One permit is always there. -/
theorem Semaphores.grants_of_le_one (semaphores : Semaphores) {runner : RunnerSettings}
    (hone : runner.parallelism ≤ 1) : semaphores.Grants runner := by
  rw [Grants, RunnerSettings.permits, Nat.max_eq_left hone]
  exact semaphores.maxPermits_pos

/-- Why something has come to no result. -/
inductive Halt where
  | failure (e : Failure)
  /-- The program ends at once, with a last text. -/
  | panic (text : String)
deriving DecidableEq, Repr

/-- Runs a suite from the beginning: once there is a catalog, the permits are asked for. -/
def Suite.launch (semaphores : Semaphores) (settings : Settings) (suite : Suite) :
    Except Halt SuiteReport :=
  match suite.run settings with
  | .error e => .error (.failure e)
  | .ok report =>
    if semaphores.Grants settings.runner then .ok report
    else .error (.panic semaphores.complaint)

theorem Suite.launch_of_grants {semaphores : Semaphores} {settings : Settings}
    (hpermits : semaphores.Grants settings.runner) (suite : Suite) :
    suite.launch semaphores settings = (suite.run settings).mapError .failure := by
  unfold launch
  cases suite.run settings with
  | error e => rfl
  | ok report => exact if_pos hpermits

end TableTest
