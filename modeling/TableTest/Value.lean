/-
`TableTest.Value` — what a command hands back

The values that an invocation can yield, their text form, and how a check compares them.
-/
namespace TableTest

/-- A value handed back by an invocation. -/
inductive Value where
  | void
  | text (s : String)
  | flag (b : Bool)
  | list (items : List String)
deriving DecidableEq, Repr

namespace Value

/-- The text that a check compares; a command without a result has none. -/
def asText? : Value → Option String
  | void => none
  | text s => some s
  | flag b => some (if b then "true" else "false")
  | list items => some (",".intercalate items)

/-- Whether the value has a text form and it is the expected one. -/
def agreesWith (v : Value) (expected : String) : Bool :=
  v.asText? == some expected

def display (v : Value) : String :=
  v.asText?.getD "(nothing)"

end Value

end TableTest
