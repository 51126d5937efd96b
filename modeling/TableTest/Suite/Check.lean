/-
`TableTest.Suite.Check` — checking a suite without running it

The script of every case is loaded and resolved; nothing is executed.
-/
import TableTest.Session.Capabilities
import TableTest.Suite

namespace TableTest

/-- What checking a case came to. -/
structure CheckReport where
  name : String
  url : String
  steps : Nat
  error : Option String
deriving DecidableEq, Repr

namespace Suite

def checkCase (catalog : Catalog) (site : Site) (case : Case) : CheckReport :=
  match case.steps catalog site.loadRows with
  | .ok steps => ⟨case.name, case.url, steps.length, none⟩
  | .error e => ⟨case.name, case.url, 0, some e.message⟩

/-- Checks every case of a suite. -/
def check (settings : CatalogSettings) (suite : Suite) : Except Failure (List CheckReport) :=
  (Session.catalog settings).map fun catalog =>
    suite.cases.map (checkCase catalog suite.site)

end Suite

end TableTest
