/-
`TableTest.Settings` — what a user can configure

The settings of the command catalog and of the runner, with their defaults.
-/
namespace TableTest

structure CatalogSettings where
  /-- Methods that are never exposed to scripts. -/
  reserved : List String :=
    ["addCustomRequestHeader", "allowNativeXpath", "pause", "rollup", "setBrowserLogLevel",
     "setExtensionJs", "start", "stop"]
  /-- How long a command that waits for the page does so, in milliseconds. -/
  andWaitTimeout : UInt64 := 30000
deriving DecidableEq, Repr

/-- The timeout as handles expect it. -/
def CatalogSettings.timeoutText (settings : CatalogSettings) : String :=
  toString settings.andWaitTimeout.toNat

structure RunnerSettings where
  /-- How many cases run at once. -/
  parallelism : Nat := 4
  /-- Whether no further case is started once one has aborted. -/
  failFast : Bool := false
deriving DecidableEq, Repr

/-- The permits that a run asks for: at least one case runs at a time. -/
def RunnerSettings.permits (runner : RunnerSettings) : Nat := max 1 runner.parallelism

theorem RunnerSettings.permits_pos (runner : RunnerSettings) : 0 < runner.permits :=
  Nat.lt_of_lt_of_le Nat.zero_lt_one (Nat.le_max_left ..)

structure Settings where
  catalog : CatalogSettings := {}
  runner : RunnerSettings := {}
deriving DecidableEq, Repr

end TableTest
