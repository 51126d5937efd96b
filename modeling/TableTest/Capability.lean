/-
`TableTest.Capability` — what a handle can do

A capability is a method of the handle with the number of arguments it takes.  A script row
offers two columns, so wider methods are out of a script's reach.
-/
namespace TableTest

/-- A method and the number of its arguments. -/
structure Capability where
  name : String
  arity : Nat
deriving DecidableEq, Repr

namespace Capability

/-- The number of arguments that a script row can give. -/
def maxArity : Nat := 2

/-- The arguments that the method takes from a row's target and value. -/
def bind (c : Capability) (target value : String) : List String :=
  [target, value].take c.arity

/-- The method with its number of arguments. -/
def label (c : Capability) : String :=
  s!"{c.name}/{c.arity}"

def find? (name : String) (cs : List Capability) : Option Capability :=
  cs.find? (·.name == name)

end Capability

end TableTest
