/-
`TableTest.Program.Respond` — the program as a function

From the arguments and the files that can be read to what is printed and the exit status.
What the texts of files hold, and how many permits there can be, the program takes as given.
-/
import TableTest.Program.Arguments
import TableTest.Program.Files
import TableTest.Program.Report
import TableTest.Settings.Document
import TableTest.Suite.Document

namespace TableTest.Program

/-- What the program takes as given. -/
structure Libraries where
  /-- The settings that a text holds, or why it holds none. -/
  readSettings : String → Except String Settings := Settings.Document.ofText
  /-- The suite that a text holds, or why it holds none. -/
  readSuite : String → Except String Suite := Suite.Document.ofText
  semaphores : Semaphores := {}

/-- What the program works in. -/
structure Environment where
  files : Files
  /-- The path of the user's configuration file. -/
  userConfig : Option String := none
  /-- Whether output is coloured. -/
  coloured : Bool := false
  libraries : Libraries := {}

/-- What the program leaves: its exit status, and what it prints. -/
structure Outcome where
  status : Nat
  output : String := ""
  errors : String := ""
deriving DecidableEq, Repr

/-- Output, and what the program stops with after it, if with anything. -/
structure Response where
  output : String := ""
  halt : Option Halt := none

namespace Response

def ofFailure (e : Failure) : Response := ⟨"", some (.failure e)⟩

/-- What the program leaves: 0 on success, 1 with a failure on the error channel, and 101 if it
has ended at once. -/
def outcome (r : Response) : Outcome :=
  match r.halt with
  | none => ⟨0, r.output, ""⟩
  | some (.failure e) => ⟨1, r.output, s!"Error: {e.message}\n"⟩
  | some (.panic text) => ⟨101, r.output, s!"{text}\n"⟩

end Response

/-! ## Settings -/

def settingsIn (env : Environment) (path : String) : Except Failure Settings :=
  (env.files.load path).bind (Settings.parseWith env.libraries.readSettings)

/-- The settings of the user, who need not have any. -/
def userSettings (env : Environment) : Except Failure Settings :=
  match env.userConfig with
  | none => .ok {}
  | some path =>
    match env.files path with
    | .nothing _ => .ok {}
    | _ => settingsIn env path

def settingsFor (env : Environment) (config : Option String) : Except Failure Settings :=
  match config with
  | some path => settingsIn env path
  | none => userSettings env

/-- The settings with what the options of a run change. -/
def withOptions (parallel : Option Nat) (failFast : Bool) (settings : Settings) : Settings :=
  { settings with
    runner := ⟨(parallel.map (max 1)).getD settings.runner.parallelism,
      settings.runner.failFast || failFast⟩ }

/-! ## Tasks -/

def suiteIn (env : Environment) (path : String) : Except Failure Suite :=
  (env.files.load path).bind (Suite.parseWith env.libraries.readSuite)

/-- The response with a report on a suite; anything but success is a failure after it. -/
def respondReport (env : Environment) (json : Bool) (report : SuiteReport) : Response where
  output :=
    if json then (suiteJson report).render ++ "\n" else suiteText env.coloured report
  halt :=
    if report.isSuccess then none
    else some (.failure
      (.suiteFailed report.results.failed report.aborted.length report.skipped))

def respondRun (env : Environment) (settings : Settings) (path : String) (json : Bool) :
    Response :=
  match suiteIn env path with
  | .error e => .ofFailure e
  | .ok suite =>
    match suite.launch env.libraries.semaphores settings with
    | .ok report => respondReport env json report
    | .error halt => ⟨"", some halt⟩

/-- The response with the checks of the suite in a file. -/
def respondChecks (env : Environment) (path : String) (checks : List CheckReport) : Response :=
  let broken := checks.countP (·.error.isSome)
  { output := checksText env.coloured path checks
    halt := if broken = 0 then none else some (.failure (.suiteFailed 0 broken 0)) }

def respondCheck (env : Environment) (settings : Settings) (path : String) : Response :=
  match (suiteIn env path).bind (Suite.check settings.catalog) with
  | .ok checks => respondChecks env path checks
  | .error e => .ofFailure e

/-- Lists the commands whose name contains the filter. -/
def respondList (env : Environment) (settings : Settings) (filter : Option String)
    (json : Bool) : Response :=
  match Session.catalog settings.catalog with
  | .error e => .ofFailure e
  | .ok catalog =>
    let entries := catalog.entries.filter fun entry =>
      (filter.map fun text => Text.contains text entry.command).getD true
    if json then { output := (Text.Json.array (entries.map entryJson)).render ++ "\n" }
    else { output := entriesText env.coloured catalog.size entries }

def respondTask (env : Environment) (settings : Settings) : Task → Response
  | .run suite json parallel failFast =>
    respondRun env (withOptions parallel failFast settings) suite json
  | .check suite => respondCheck env settings suite
  | .list filter json => respondList env settings filter json

/-- The response to an invocation: the settings are read before anything else. -/
def respondInvocation (env : Environment) (invocation : Invocation) : Response :=
  match settingsFor env invocation.config with
  | .ok settings => respondTask env settings invocation.task
  | .error e => .ofFailure e

/-! ## The whole program -/

def versionText : String := "selenese 0.1.0\n"

def helpText : String :=
  unlines
    ["Table-driven browser test runner", "",
     "Usage: selenese [OPTIONS] <COMMAND>", "",
     "Commands:",
     "  run       Run every test case of a YAML suite",
     "  check     Resolve every script in a suite without running it",
     "  commands  List the commands scripts can use",
     "  help      Print this message or the help of the given subcommand(s)", "",
     "Options:",
     "      --config <CONFIG>  Configuration file (defaults to the per-user config)",
     "  -v, --verbose          Verbose logging",
     "  -h, --help             Print help",
     "  -V, --version          Print version"]

/-- What the program leaves when it is called with some arguments. -/
def respond (env : Environment) (args : List String) : Outcome :=
  match Arguments.parse args with
  | .ok .help => ⟨0, helpText, ""⟩
  | .ok .version => ⟨0, versionText, ""⟩
  | .ok (.invoke invocation) => (respondInvocation env invocation).outcome
  | .error fault => ⟨2, "", s!"error: {fault.describe}\n"⟩

/-- The paths that an invocation reads. -/
def Invocation.paths (env : Environment) (invocation : Invocation) : List String :=
  let suite :=
    match invocation.task with
    | .run suite _ _ _ | .check suite => [suite]
    | .list _ _ => []
  (invocation.config.or env.userConfig).toList ++ suite

end TableTest.Program
