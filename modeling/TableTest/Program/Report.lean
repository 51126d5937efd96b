/-
`TableTest.Program.Report` — what the program prints

Reports on suites, on checks and on the commands of a catalog, for people and in JSON.
-/
import TableTest.Program.Style
import TableTest.Suite.Check
import TableTest.Suite.Run
import TableTest.Text.Json

namespace TableTest.Program

open Text (Json)

def unlines (lines : List String) : String :=
  String.join (lines.map (· ++ "\n"))

/-- The line on a case in which all is well. -/
def passedLine (coloured : Bool) (name : String) (steps : Nat) : String :=
  "  " ++ Style.green.apply coloured "✓" ++ s!" {name} ({steps} steps)"

/-- The line on a case in which something is wrong. -/
def failedLine (coloured : Bool) (title : String) : String :=
  "  " ++ Style.red.apply coloured "✗" ++ " " ++ title

/-- The line on what is wrong. -/
def reasonLine (coloured : Bool) (reason : String) : String :=
  "      " ++ Style.red.apply coloured reason

/-! ## Runs -/

/-- The lines on a case that ran to its end. -/
def caseLines (coloured : Bool) (report : CaseReport) : List String :=
  if report.passed then
    [passedLine coloured report.name report.stepsTotal]
  else
    failedLine coloured s!"{report.name} (step {report.stepsRun}/{report.stepsTotal})" ::
      (report.failure.map (reasonLine coloured)).toList

def abortedLines (coloured : Bool) (case : AbortedCase) : List String :=
  ["  " ++ Style.boldRed.apply coloured "!" ++ s!" {case.name} [{case.code}]",
   reasonLine coloured case.error]

/-- The line on the cases that were not started, if there are any. -/
def skippedLines (coloured : Bool) (skipped : Nat) : List String :=
  if 0 < skipped then
    ["  " ++ Style.yellow.apply coloured s!"{skipped} test case(s) not started"]
  else []

/-- The last line of a report: the counts, and whether all is well. -/
def summaryLine (coloured : Bool) (report : SuiteReport) : String :=
  let counts :=
    s!"{report.results.passed} passed, {report.results.failed} failed, " ++
      s!"{report.aborted.length} aborted"
  if report.isSuccess then
    Style.boldGreen.apply coloured "✓" ++ " " ++ Style.green.apply coloured counts
  else
    Style.boldRed.apply coloured "✗" ++ " " ++ Style.red.apply coloured counts

def suiteText (coloured : Bool) (report : SuiteReport) : String :=
  unlines <|
    ["", Style.bold.apply coloured "Suite:" ++ " " ++ report.name, ""] ++
      report.cases.flatMap (caseLines coloured) ++
      report.aborted.flatMap (abortedLines coloured) ++
      skippedLines coloured report.skipped ++
      ["", summaryLine coloured report]

def resultsJson (results : Results) : Json :=
  .object
    [("passed", .number results.passed), ("failed", .number results.failed),
     ("failures", .array (results.failures.map .string))]

def caseJson (report : CaseReport) : Json :=
  .object
    [("name", .string report.name), ("url", .string report.url),
     ("state", .string report.state.key), ("passed", .bool report.passed),
     ("steps_run", .number report.stepsRun), ("steps_total", .number report.stepsTotal),
     ("failure", .optional report.failure)]

def abortedJson (case : AbortedCase) : Json :=
  .object
    [("name", .string case.name), ("url", .string case.url), ("code", .string case.code),
     ("error", .string case.error)]

def suiteJson (report : SuiteReport) : Json :=
  .object
    [("name", .string report.name), ("results", resultsJson report.results),
     ("cases", .array (report.cases.map caseJson)),
     ("aborted", .array (report.aborted.map abortedJson)), ("skipped", .number report.skipped)]

/-! ## Checks -/

/-- The lines on a checked case. -/
def checkLines (coloured : Bool) (check : CheckReport) : List String :=
  match check.error with
  | none => [passedLine coloured check.name check.steps]
  | some error => [failedLine coloured check.name, reasonLine coloured error]

/-- The report on the checks of the suite in a file. -/
def checksText (coloured : Bool) (path : String) (checks : List CheckReport) : String :=
  unlines (s!"Checking {path}" :: checks.flatMap (checkLines coloured))

/-! ## Commands -/

def entryLine (coloured : Bool) (entry : Entry) : String :=
  let kind := Style.dim.apply coloured (padTo 8 entry.form.kind.label)
  s!"  {padTo 36 entry.command} {kind} {entry.capability.label}"

/-- The list of some commands out of `total`. -/
def entriesText (coloured : Bool) (total : Nat) (entries : List Entry) : String :=
  if entries.isEmpty then unlines ["No matching commands"]
  else
    unlines (entries.map (entryLine coloured) ++ ["", s!"{entries.length} of {total} commands"])

def entryJson (entry : Entry) : Json :=
  .object
    [("arity", .number entry.capability.arity), ("command", .string entry.command),
     ("kind", .string entry.form.kind.label), ("method", .string entry.capability.name)]

end TableTest.Program
