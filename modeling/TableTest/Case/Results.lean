/-
`TableTest.Case.Results` — counts of passed and failed cases
-/
namespace TableTest

/-- How many cases passed and failed, and why those failed. -/
structure Results where
  passed : Nat := 0
  failed : Nat := 0
  failures : List String := []
deriving DecidableEq, Repr

namespace Results

/-- The results with one more passed case. -/
def success (r : Results) : Results :=
  { r with passed := r.passed + 1 }

/-- The results with one more failed case. -/
def failure (reason : String) (r : Results) : Results :=
  { r with failed := r.failed + 1, failures := r.failures ++ [reason] }

/-- The results of both. -/
def merge (r other : Results) : Results :=
  ⟨r.passed + other.passed, r.failed + other.failed, r.failures ++ other.failures⟩

def total (r : Results) : Nat := r.passed + r.failed

def isSuccess (r : Results) : Bool := r.failed == 0

end Results

end TableTest
