/-
`TableTest.Handle` — what a script is run against

A handle on a browser whose state is of type `σ`: where it is, and what it answers to
navigating, to waiting and to an invocation.  An answer is a result together with the state
it leaves, whether it is a success or a failure.
-/
import TableTest.Failure
import TableTest.Value

namespace TableTest

/-- An answer: a result, and the state after it. -/
abbrev Answer (σ α : Type) := Except Failure α × σ

/-- The operations of a browser with states in `σ`. -/
structure Handle (σ : Type) where
  /-- The address of the current page. -/
  location : σ → Option String
  /-- Goes to an address. -/
  navigate : String → σ → Answer σ Unit
  /-- Waits until the current page is ready, for at most a time given as text. -/
  await : String → σ → Answer σ Unit
  /-- Invokes a method with arguments. -/
  invoke : String → List String → σ → Answer σ Value

/-- A call on a handle. -/
inductive Call where
  | invoke (method : String) (args : List String)
  | navigate (url : String)
  | await (timeout : String)
deriving DecidableEq, Repr

namespace Handle

/-- Keeps a call beside the state that its answer leaves. -/
def keep {σ α : Type} (call : Call) (calls : List Call) (answer : Answer σ α) :
    Answer (σ × List Call) α :=
  (answer.1, answer.2, calls ++ [call])

/-- The handle that also keeps the calls made on it, in order, failing ones included. -/
def traced {σ : Type} (h : Handle σ) : Handle (σ × List Call) where
  location s := h.location s.1
  navigate url s := keep (.navigate url) s.2 (h.navigate url s.1)
  await timeout s := keep (.await timeout) s.2 (h.await timeout s.1)
  invoke method args s := keep (.invoke method args) s.2 (h.invoke method args s.1)

end Handle

end TableTest
