/-
`TableTest.Catalog.Cell` — a catalog that is made once

The first request makes the catalog; what it came to, a catalog or a name that could not be
registered, answers every later request.
-/
import TableTest.Catalog

namespace TableTest.Catalog

/-- A place for a catalog: empty, or with what making it came to. -/
structure Cell where
  made : Option (Except String Catalog) := none
deriving Repr

namespace Cell

/-- What a request is answered with. -/
structure Answer where
  /-- Whether the capabilities of this request were asked for. -/
  asked : Bool
  outcome : Except Failure Catalog
  cell : Cell

/-- The answer of a cell in which making came to `made`. -/
def answer (asked : Bool) (made : Except String Catalog) : Answer :=
  ⟨asked, made.mapError .catalogConsistency, ⟨some made⟩⟩

/-- Requests the catalog; the first request makes it. -/
def getOrBuild (settings : CatalogSettings) (cs : List Capability) (cell : Cell) : Answer :=
  match cell.made with
  | some made => answer false made
  | none => answer true (assemble settings cs)

def get? (cell : Cell) : Option Catalog :=
  match cell.made with
  | some (.ok catalog) => some catalog
  | _ => none

end Cell

end TableTest.Catalog
