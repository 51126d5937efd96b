/-
`TableTest.Suite` — test suites

A suite describes a site and lists the script pages to run on it.
-/
import TableTest.Case
import TableTest.Site

namespace TableTest

/-- A script page to run, as a suite lists it. -/
structure SuiteTest where
  name : Option String := none
  url : String
deriving DecidableEq, Repr

structure Suite where
  name : String
  description : Option String := none
  site : Site := {}
  tests : List SuiteTest := []
deriving DecidableEq, Repr

/-- The case of a listed test: its address is resolved, and names it unless it has a name. -/
def SuiteTest.toCase (site : Site) (test : SuiteTest) : Case :=
  let url := site.resolveUrl test.url
  ⟨test.name.getD url, url⟩

/-- The cases of a suite, in the order in which it lists them. -/
def Suite.cases (suite : Suite) : List Case :=
  suite.tests.map (·.toCase suite.site)

end TableTest
