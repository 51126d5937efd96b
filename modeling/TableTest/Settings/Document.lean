/-
`TableTest.Settings.Document` — configuration files

Reads the settings from a TOML text.  What is not given has its default, and keys that are
not known do not count.  A record may also be written as an array of its values in their
order.  Whatever reads the text, at least one case runs at a time.
-/
import TableTest.Failure
import TableTest.Settings
import TableTest.Toml.Document

namespace TableTest

open Toml (Item)

namespace Settings.Document

/-- Why a TOML text holds no settings. -/
inductive Fault where
  | toml (fault : Toml.Fault)
  | expected (what : String)
deriving DecidableEq, Repr

def Fault.describe : Fault → String
  | toml fault => fault.describe
  | expected what => s!"expected {what}"

/-! ## Values -/

def text : Item → Except Fault String
  | .text s => .ok s
  | _ => .error (.expected "a text")

/-- A number that is not negative. -/
def natural : Item → Except Fault Nat
  | .integer (.ofNat n) => .ok n
  | _ => .error (.expected "a natural number")

def milliseconds (item : Item) : Except Fault UInt64 :=
  (natural item).map UInt64.ofNat

def flag : Item → Except Fault Bool
  | .flag b => .ok b
  | _ => .error (.expected "true or false")

def texts : Item → Except Fault (List String)
  | .array items => items.mapM text
  | _ => .error (.expected "a list")

/-! ## Records -/

/-- The values of a record of which `names` are the fields, each where it is given.  Dates
are records without known fields. -/
def record (names : List String) : Item → Except Fault (List (Option Item))
  | .table _ fields => .ok (names.map fun name => fields.lookup name)
  | .array items => .ok ((List.range names.length).map (items[·]?))
  | .tables items =>
    .ok ((List.range names.length).map fun i => items[i]?.map (.table .header))
  | .datetime => .ok (names.map fun _ => none)
  | _ => .error (.expected "a table")

/-- A value that may be left out. -/
def orElse {α : Type} (default : α) (read : Item → Except Fault α) :
    Option Item → Except Fault α
  | some item => read item
  | none => .ok default

def catalog (item : Item) : Except Fault CatalogSettings := do
  let values ← record ["reserved", "and_wait_timeout_ms"] item
  let given : CatalogSettings := {}
  return {
    reserved := ← orElse given.reserved texts (values[0]?.join)
    andWaitTimeout :=
      ← orElse given.andWaitTimeout milliseconds (values[1]?.join) }

def runner (item : Item) : Except Fault RunnerSettings := do
  let values ← record ["parallelism", "fail_fast"] item
  let given : RunnerSettings := {}
  return {
    parallelism := ← orElse given.parallelism natural (values[0]?.join)
    failFast := ← orElse given.failFast flag (values[1]?.join) }

def settings (fields : Toml.Fields) : Except Fault Settings := do
  return {
    catalog := ← orElse {} catalog (fields.lookup "catalog")
    runner := ← orElse {} runner (fields.lookup "runner") }

/-- The settings in a TOML text, as they are written there. -/
def ofText (toml : String) : Except String Settings :=
  (((Toml.parse toml).mapError .toml).bind settings).mapError Fault.describe

end Settings.Document

namespace Settings

/-- The settings in a text that some reader reads. -/
def parseWith (read : String → Except String Settings) (text : String) :
    Except Failure Settings :=
  match read text with
  | .ok settings =>
    .ok { settings with
      runner := { settings.runner with parallelism := settings.runner.permits } }
  | .error reason => .error (.configInvalid reason)

def parse (toml : String) : Except Failure Settings := parseWith Document.ofText toml

end Settings

end TableTest
