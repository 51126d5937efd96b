/-
`TableTest.Failure` — what can go wrong

One constructor per cause.  A domain failure is an outcome of the page under test and fails a
case; every other failure aborts it.
-/
import TableTest.Text.Quoted

namespace TableTest

inductive Failure where
  | unknownCommand (name : String)
  | assertionFailed (reason : String)
  | elementNotFound (locator : String)
  | commandFailed (command reason : String)
  | fatalInvocation (method : String) (args : List String) (reason : String)
  | navigation (url reason : String)
  | catalogConsistency (name : String)
  | configInvalid (reason : String)
  | suiteInvalid (reason : String)
  | suiteFailed (failed aborted skipped : Nat)
  | fileUnreadable (path reason : String)
  | json (reason : String)
  | internal (reason : String)
deriving DecidableEq, Repr

namespace Failure

/-- The failure in words. -/
def message : Failure → String
  | unknownCommand name => s!"Unknown command: {name}"
  | assertionFailed reason => s!"Assertion failed: {reason}"
  | elementNotFound locator => s!"Element {locator} not found"
  | commandFailed command reason => s!"{command} failed: {reason}"
  | fatalInvocation method args reason =>
    s!"Unable to emulate {method} {Text.quoteList args}: {reason}"
  | navigation url reason => s!"Failed to navigate to '{url}': {reason}"
  | catalogConsistency name =>
    s!"Command catalog is inconsistent: '{name}' would be registered twice"
  | configInvalid reason => s!"Invalid configuration file: {reason}"
  | suiteInvalid reason => s!"Invalid test suite: {reason}"
  | suiteFailed failed aborted skipped =>
    s!"{failed} test case(s) failed, {aborted} aborted, {skipped} not started"
  | fileUnreadable path reason => s!"Failed to read file '{path}': {reason}"
  | json reason => s!"JSON error: {reason}"
  | internal reason => s!"Internal error: {reason}"

/-- The stable code of the cause, for reports that programs read. -/
def code : Failure → String
  | unknownCommand _ => "UNKNOWN_COMMAND"
  | assertionFailed _ => "ASSERTION_FAILED"
  | elementNotFound _ => "ELEMENT_NOT_FOUND"
  | commandFailed _ _ => "COMMAND_FAILED"
  | fatalInvocation _ _ _ => "FATAL_INVOCATION"
  | navigation _ _ => "NAVIGATION_FAILED"
  | catalogConsistency _ => "CATALOG_CONSISTENCY"
  | configInvalid _ => "CONFIG"
  | suiteInvalid _ => "SUITE_PARSE"
  | suiteFailed _ _ _ => "SUITE_FAILED"
  | fileUnreadable _ _ | json _ | internal _ => "INTERNAL_ERROR"

/-- Whether the failure is one of the page under test. -/
def isDomain : Failure → Bool
  | assertionFailed _ | elementNotFound _ | commandFailed _ _ => true
  | _ => false

end Failure

end TableTest
