/-
`TableTest.Catalog.Entry` — one command of the catalog

An entry ties the name of a command to a capability and to the form of the command: the
capability itself, a check of what it hands back, or the capability followed by a wait.  With
a row it makes a step.
-/
import TableTest.Capability
import TableTest.Naming
import TableTest.Row
import TableTest.Step

namespace TableTest

/-- The column of a row that holds what a check expects. -/
inductive Column where
  | target
  | value
deriving DecidableEq, Repr

/-- The column left for the expectation once the arguments are taken; wider methods leave none. -/
def Column.forArity? : Nat → Option Column
  | 0 => some .target
  | 1 => some .value
  | _ => none

/-- What a row holds in a column. -/
def Row.cell (row : Row) : Column → String
  | .target => row.target
  | .value => row.value

/-- The two families of checks. -/
inductive CheckMode where
  | assert
  | verify
deriving DecidableEq, Repr

/-- The name of a check of a short name. -/
def CheckMode.commandName : CheckMode → String → String
  | assert => Naming.assertName
  | verify => Naming.verifyName

/-- What a command does with its capability. -/
inductive CommandForm where
  | action
  | check (mode : CheckMode) (column : Column) (expectation : Expectation)
  | andWait (timeout : String)
deriving DecidableEq, Repr

/-- The families that a listing of commands tells apart. -/
inductive CommandKind where
  | action
  | assert
  | verify
  | andWait
deriving DecidableEq, Repr

def CommandKind.label : CommandKind → String
  | action => "action"
  | assert => "assert"
  | verify => "verify"
  | andWait => "and-wait"

def CommandForm.kind : CommandForm → CommandKind
  | action => .action
  | check .assert _ _ => .assert
  | check .verify _ _ => .verify
  | andWait _ => .andWait

/-- A command: its name, its capability and its form. -/
structure Entry where
  command : String
  capability : Capability
  form : CommandForm
deriving DecidableEq, Repr

namespace Entry

/-- What the command does with a row. -/
def stepAction (entry : Entry) (row : Row) : StepAction :=
  match entry.form with
  | .action => .invoke
  | .check _ column expectation => .compare (row.cell column) expectation
  | .andWait timeout => .invokeAndWait timeout

def step (entry : Entry) (row : Row) : Step where
  command := entry.command
  method := entry.capability.name
  args := entry.capability.bind row.target row.value
  action := entry.stepAction row

/-- The check of a short name, plain or negated. -/
def checkOf (c : Capability) (short : String) (column : Column) (mode : CheckMode) :
    Expectation → Entry
  | .equal => ⟨mode.commandName short, c, .check mode column .equal⟩
  | .notEqual => ⟨mode.commandName (Naming.negate short), c, .check mode column .notEqual⟩

/-- The four checks of a short name. -/
def checksOf (c : Capability) (short : String) (column : Column) : List Entry :=
  [checkOf c short column .assert .equal, checkOf c short column .assert .notEqual,
   checkOf c short column .verify .equal, checkOf c short column .verify .notEqual]

/-- The checks of a capability: only an accessor that leaves a column free has any. -/
def checks (c : Capability) : List Entry :=
  match Naming.shortName? c.name, Column.forArity? c.arity with
  | some short, some column => checksOf c short column
  | _, _ => []

/-- All commands of a capability, in the order in which they are registered. -/
def family (timeout : String) (c : Capability) : List Entry :=
  [⟨c.name, c, .action⟩] ++ checks c ++ [⟨Naming.andWaitName c.name, c, .andWait timeout⟩]

end Entry

end TableTest
