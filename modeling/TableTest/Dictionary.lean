/-
`TableTest.Dictionary` — values under names, in the order of the names

A finite map from names to values that lists its entries in ascending order.  Texts are
ordered by their code points, which is also the order of their UTF-8 bytes.
-/
namespace TableTest

/-- Values under names. -/
structure Dictionary (α : Type) where
  entries : List (String × α) := []
deriving DecidableEq, Repr

namespace Dictionary

variable {α : Type}

/-- Puts a value under a name in an ascending list, in place of the value that stood there. -/
def place (name : String) (v : α) : List (String × α) → List (String × α)
  | [] => [(name, v)]
  | (n, w) :: rest =>
    if name = n then (name, v) :: rest
    else if name < n then (name, v) :: (n, w) :: rest
    else (n, w) :: place name v rest

def insert (name : String) (v : α) (d : Dictionary α) : Dictionary α :=
  ⟨place name v d.entries⟩

def erase (name : String) (d : Dictionary α) : Dictionary α :=
  ⟨d.entries.filter (·.1 != name)⟩

def get? (name : String) (d : Dictionary α) : Option α :=
  d.entries.lookup name

def contains (name : String) (d : Dictionary α) : Bool :=
  (d.get? name).isSome

/-- The names, ascending. -/
def names (d : Dictionary α) : List String :=
  d.entries.map (·.1)

/-- The values, in the order of their names. -/
def values (d : Dictionary α) : List α :=
  d.entries.map (·.2)

def size (d : Dictionary α) : Nat :=
  d.entries.length

/-- The dictionary of a list of entries; of two under one name the later counts. -/
def ofList (entries : List (String × α)) : Dictionary α :=
  entries.foldl (fun d (name, v) => d.insert name v) {}

end Dictionary

end TableTest
