/-
`TableTest.Program.Arguments` — the command line

Reads the arguments of the program from left to right.  The first fault, or the first option
that asks for help or the version, decides; what is missing shows only at the end.  An option
is given at most once, except that those for all commands may stand both before and after the
name of the command; the later value counts.
-/
import TableTest.Text.Affix
import TableTest.Text.Decimal

namespace TableTest.Program

/-- What the program is asked to do. -/
inductive Task where
  | run (suite : String) (json : Bool) (parallel : Option Nat) (failFast : Bool)
  | check (suite : String)
  | list (filter : Option String) (json : Bool)
deriving DecidableEq, Repr

/-- A task and the configuration file to use for it. -/
structure Invocation where
  task : Task
  config : Option String := none
deriving DecidableEq, Repr

/-- Why the arguments cannot be followed. -/
inductive UsageFault where
  | unknownOption (arg : String)
  | unknownCommand (arg : String)
  | unexpectedArgument (arg : String)
  | unexpectedValue (option : String)
  | repeatedOption (option : String)
  | missingValue (option : String)
  | invalidValue (option value : String)
  | missingCommand
  | missingSuite
deriving DecidableEq, Repr

def UsageFault.describe : UsageFault → String
  | unknownOption arg => s!"unexpected argument '{arg}' found"
  | unknownCommand arg => s!"unrecognized subcommand '{arg}'"
  | unexpectedArgument arg => s!"unexpected argument '{arg}' found"
  | unexpectedValue option => s!"unexpected value for '{option}' found; no more were expected"
  | repeatedOption option => s!"the argument '{option}' cannot be used multiple times"
  | missingValue option => s!"a value is required for '{option}' but none was supplied"
  | invalidValue option value => s!"invalid value '{value}' for '{option}'"
  | missingCommand => "a command is required but none was given"
  | missingSuite => "the following required arguments were not provided: <SUITE>"

inductive Request where
  | help
  | version
  | invoke (invocation : Invocation)
deriving DecidableEq, Repr

/-! ## Options -/

inductive Opt where
  | config
  | verbose
  | help
  | version
  | json
  | parallel
  | failFast
  | filter
deriving DecidableEq, Repr

namespace Opt

def long : Opt → String
  | config => "config"
  | verbose => "verbose"
  | help => "help"
  | version => "version"
  | json => "json"
  | parallel => "parallel"
  | failFast => "fail-fast"
  | filter => "filter"

def short? : Opt → Option Char
  | verbose => some 'v'
  | help => some 'h'
  | version => some 'V'
  | parallel => some 'p'
  | filter => some 'f'
  | config | json | failFast => none

def takesValue : Opt → Bool
  | config | parallel | filter => true
  | _ => false

/-- Whether a value is one that the option takes: a path is not empty, a count is a number. -/
def accepts (value : String) : Opt → Bool
  | config => !value.isEmpty
  | parallel => (Text.word? value).isSome
  | _ => true

end Opt

inductive Command where
  | run
  | check
  | commands
  | help
deriving DecidableEq, Repr

namespace Command

def name : Command → String
  | run => "run"
  | check => "check"
  | commands => "commands"
  | help => "help"

def ofName? (s : String) : Option Command :=
  [run, check, commands, help].find? (·.name == s)

/-- The options of a command, or before any command. -/
def options : Option Command → List Opt
  | none => [.config, .verbose, .help, .version]
  | some run => [.config, .verbose, .help, .json, .parallel, .failFast]
  | some check => [.config, .verbose, .help]
  | some commands => [.config, .verbose, .help, .filter, .json]
  | some help => []

/-- Whether the command takes the path of a suite. -/
def takesSuite : Command → Bool
  | run | check => true
  | commands | help => false

end Command

/-! ## Reading -/

/-- What has been read of the arguments. -/
structure Arguments where
  command : Option Command := none
  /-- The options given since the name of the command, or before it. -/
  given : List Opt := []
  /-- The values of options, the latest first. -/
  values : List (Opt × String) := []
  suite : Option String := none
  /-- Whether only positional arguments are left. -/
  escaped : Bool := false
deriving Repr

/-- Why reading stops before the end: a fault, or a request for help or the version. -/
inductive Stop where
  | fault (fault : UsageFault)
  | help
  | version
deriving DecidableEq, Repr

namespace Arguments

def note (opt : Opt) (a : Arguments) : Except Stop Arguments :=
  if a.given.contains opt then .error (.fault (.repeatedOption opt.long))
  else .ok { a with given := opt :: a.given }

def setFlag (opt : Opt) (a : Arguments) : Except Stop Arguments :=
  match opt with
  | .help => .error .help
  | .version => .error .version
  | opt => (a.note opt).map fun a => { a with values := (opt, "") :: a.values }

def setValue (opt : Opt) (value : String) (a : Arguments) : Except Stop Arguments :=
  if opt.accepts value then
    (a.note opt).map fun a => { a with values := (opt, value) :: a.values }
  else .error (.fault (.invalidValue opt.long value))

/-- Whether an argument can be the value of an option that stands before it. -/
def isValue (arg : String) : Bool := !Text.startsWith "-" arg || arg == "-"

/-- Notes an option with a value that is attached to it or follows it, and gives the
arguments after that. -/
def takeValue (opt : Opt) (attached : Option String) (rest : List String) (a : Arguments) :
    Except Stop (Arguments × List String) :=
  match attached, rest with
  | some value, rest => (a.setValue opt value).map (·, rest)
  | none, value :: rest =>
    if isValue value then (a.setValue opt value).map (·, rest)
    else .error (.fault (.missingValue opt.long))
  | none, [] => .error (.fault (.missingValue opt.long))

/-- The options that can be given here. -/
def options (a : Arguments) : List Opt := Command.options a.command

/-- Reads a long option; `body` is the argument without its dashes. -/
def readLong (body : String) (rest : List String) (a : Arguments) :
    Except Stop (Arguments × List String) :=
  let (name, attached) :=
    match Text.splitFirst? '=' body with
    | some (name, value) => (name, some value)
    | none => (body, none)
  match a.options.find? (·.long == name) with
  | none => .error (.fault (.unknownOption ("--" ++ body)))
  | some opt =>
    if opt.takesValue then a.takeValue opt attached rest
    else if attached.isSome then .error (.fault (.unexpectedValue opt.long))
    else (a.setFlag opt).map (·, rest)

/-- The value attached to a short option, an equals sign before it not counting. -/
def attachedValue : List Char → Option String
  | [] => none
  | '=' :: cs => some (String.ofList cs)
  | cs => some (String.ofList cs)

/-- Reads short options that stand in one argument. -/
def readShort : List Char → List String → Arguments → Except Stop (Arguments × List String)
  | [], rest, a => .ok (a, rest)
  | c :: cs, rest, a =>
    match a.options.find? (·.short? == some c) with
    | none => .error (.fault (.unknownOption ("-" ++ String.singleton c)))
    | some opt =>
      if opt.takesValue then a.takeValue opt (attachedValue cs) rest
      else
        match a.setFlag opt with
        | .ok a => readShort cs rest a
        | .error stop => .error stop

def readCommand (arg : String) (a : Arguments) : Except Stop Arguments :=
  if a.escaped then .error (.fault (.unexpectedArgument arg))
  else
    match Command.ofName? arg with
    | some command => .ok { a with command := some command, given := [] }
    | none => .error (.fault (.unknownCommand arg))

/-- Reads an argument that is no option. -/
def readPositional (arg : String) (a : Arguments) : Except Stop Arguments :=
  match a.command with
  | none => a.readCommand arg
  | some command =>
    if !command.takesSuite || a.suite.isSome then .error (.fault (.unexpectedArgument arg))
    else if arg.isEmpty then .error (.fault (.invalidValue "<SUITE>" arg))
    else .ok { a with suite := some arg }

/-- Reads the next argument, and gives those after it. -/
def readNext (arg : String) (rest : List String) (a : Arguments) :
    Except Stop (Arguments × List String) :=
  if a.escaped then (a.readPositional arg).map (·, rest)
  else if arg == "--" then .ok ({ a with escaped := true }, rest)
  else
    match Text.after? "--" arg, arg.toList with
    | some body, _ => a.readLong body rest
    | none, '-' :: c :: cs => a.readShort (c :: cs) rest
    | none, _ => (a.readPositional arg).map (·, rest)

/-- Reads the names after the command `help`. -/
def readHelp : List String → Stop
  | [] => .help
  | [name] =>
    if (Command.ofName? name).isSome then .help else .fault (.unknownCommand name)
  | _ :: name :: _ => .fault (.unknownCommand name)

/-- Reads the arguments; `bound` is at least their number. -/
def read : (bound : Nat) → List String → Arguments → Except Stop Arguments
  | _, [], a => .ok a
  | 0, _, a => .ok a
  | bound + 1, arg :: rest, a =>
    match a.readNext arg rest with
    | .error stop => .error stop
    | .ok (a, rest) =>
      if a.command = some .help then .error (readHelp rest) else read bound rest a

def value? (opt : Opt) (a : Arguments) : Option String := a.values.lookup opt

def has (opt : Opt) (a : Arguments) : Bool := (a.value? opt).isSome

def requireSuite (a : Arguments) : Except Stop String :=
  match a.suite with
  | some suite => .ok suite
  | none => .error (.fault .missingSuite)

def task (a : Arguments) : Except Stop Task :=
  match a.command with
  | none => .error (.fault .missingCommand)
  | some .help => .error .help
  | some .run => a.requireSuite.map fun suite =>
    let parallel := (a.value? .parallel).bind fun value => (Text.word? value).map (·.toNat)
    .run suite (a.has .json) parallel (a.has .failFast)
  | some .check => a.requireSuite.map .check
  | some .commands => .ok (.list (a.value? .filter) (a.has .json))

/-- What the arguments ask for. -/
def parse (args : List String) : Except UsageFault Request :=
  match (read args.length args {}).bind fun a => a.task.map fun task => (a, task) with
  | .ok (a, task) => .ok (.invoke ⟨task, a.value? .config⟩)
  | .error .help => .ok .help
  | .error .version => .ok .version
  | .error (.fault fault) => .error fault

end Arguments

end TableTest.Program
