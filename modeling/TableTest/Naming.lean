/-
`TableTest.Naming` — the names derived from a capability

A script addresses a capability under several names.  An accessor, whose name begins with
`get` or `is`, has a short name; its checks are named after the short name and its negation.
-/
import TableTest.Text.Affix

namespace TableTest.Naming

/-- The name of an accessor without its leading `get` or `is`; none for other capabilities. -/
def shortName? (method : String) : Option String :=
  (Text.after? "get" method).or (Text.after? "is" method)

/-- The negated short name: `Not` goes before a final `Present`, and in front otherwise. -/
def negate (short : String) : String :=
  match Text.before? "Present" short with
  | some stem => stem ++ "NotPresent"
  | none => "Not" ++ short

def assertName (short : String) : String := "assert" ++ short

def verifyName (short : String) : String := "verify" ++ short

/-- The name of the command that waits for the page afterwards. -/
def andWaitName (method : String) : String := method ++ "AndWait"

end TableTest.Naming
