/-
`TableTest.Proofs.CasePage` — whether a case runs the page that its address names

The address of a case is that of its test, resolved.  It is resolved again when the session goes to
the page, and once more when the script is loaded.  The case runs the page at its address exactly if
that changes nothing, which holds for every test on a settled site.
-/
import TableTest.Proofs.Address
import TableTest.Proofs.SuiteAgreement

namespace TableTest

theorem Site.locate_of_page? {site : Site} {target : String} {page : Page}
    (hpage : site.page? (site.resolveUrl target) = some page) :
    site.locate target = .ok (site.resolveUrl target, page) := by
  simp only [locate, hpage]

namespace Suite

variable {catalog : Catalog} {site : Site} {case : Case} {page : Page}

/-- A case runs a page under its address. -/
structure RunsPage (catalog : Catalog) (site : Site) (case : Case) (page : Page) : Prop where
  /-- The session goes to the page, and is at the address of the case then. -/
  arrives : ∃ s, case.goTo (Session.handle site) {} = (.ok (), s) ∧
    s.location = some case.url ∧ s.elements = page.elements
  /-- The rows that are resolved are the script of the page. -/
  loads : site.loadRows case.url = .ok (Row.ofTable page.script)
  /-- If the case is aborted, it is for a command that is unknown or a step that is fatal. -/
  found : ∀ a, outcomeOf case (runAlone catalog site case).outcome = .aborted a →
    a.code = "UNKNOWN_COMMAND" ∨ a.code = "FATAL_INVOCATION"

theorem code_of_located {url : String} {a : AbortedCase}
    (hl : site.locate case.url = .ok (url, page))
    (ha : outcomeOf case (runAlone catalog site case).outcome = .aborted a) :
    a.code = "UNKNOWN_COMMAND" ∨ a.code = "FATAL_INVOCATION" := by
  have hsteps := Case.steps_of_loaded catalog (loadRows_found hl)
  cases hr : catalog.resolve (Row.ofTable page.script) with
  | error e =>
      obtain ⟨row, -, rfl⟩ := Catalog.resolve_fails hr
      rw [runAlone, Case.run_of_unresolved (goTo_found hl) (hsteps.trans hr)] at ha
      cases ha
      exact Or.inl rfl
  | ok steps =>
      have hnone : (checkCase catalog site case).error = none := by
        rw [checkCase, hsteps.trans hr]
      obtain ⟨-, -, -, -, hend⟩ := (agreement catalog site case).sound hnone
      rw [runSeen_outcome, ha] at hend
      rcases hend with ⟨report, hreport, -⟩ | ⟨text, htext⟩
      · cases hreport
      · cases htext
        exact Or.inr rfl

/-- A case runs the page at its address exactly if the address stands for itself. -/
theorem runsPage_iff (hpage : site.page? case.url = some page) :
    RunsPage catalog site case page ↔ site.resolveUrl case.url = case.url := by
  constructor
  · intro hruns
    obtain ⟨s, hgo, hlocation, -⟩ := hruns.arrives
    rw [goTo_new] at hgo
    obtain ⟨url, there, hl, rfl⟩ := Session.load_ok_iff.mp hgo
    obtain ⟨rfl, -⟩ := Site.locate_ok hl
    exact Option.some.inj hlocation
  · intro hself
    have hl : site.locate case.url = .ok (case.url, page) := by
      have hl := Site.locate_of_page? (hself.symm ▸ hpage)
      rwa [hself] at hl
    exact ⟨⟨_, goTo_found hl, rfl, rfl⟩, loadRows_found hl, fun a ha => code_of_located hl ha⟩

/-- Every test of a site whose address names a page runs that page. -/
def RunsPages (catalog : Catalog) (site : Site) : Prop :=
  ∀ (test : SuiteTest) (page : Page), site.page? (test.toCase site).url = some page →
    RunsPage catalog site (test.toCase site) page

/-- It depends on the base address alone whether this is so, whatever pages there are. -/
theorem settled_iff_runsPages (catalog : Catalog) (site : Site) :
    site.Settled ↔ ∀ pages, RunsPages catalog { site with pages } := by
  constructor
  · intro hsettled pages test page hpage
    have hsettled' : Site.Settled { site with pages } := hsettled
    exact (runsPage_iff hpage).mpr (hsettled'.resolveUrl_resolveUrl test.url)
  · intro hruns
    refine Site.settled_iff.mpr ?_
    intro target
    -- the site whose only page is at the address of the target, and a test of that page
    let page : Page := { url := site.resolveUrl target }
    let site' : Site := { site with pages := [page] }
    let test : SuiteTest := { url := target }
    have hpage : site'.page? (test.toCase site').url = some page :=
      List.find?_cons_of_pos (beq_self_eq_true page.url)
    exact (runsPage_iff hpage).mp (hruns [page] test page hpage)

/-- For a test whose address names a page: the case runs that page exactly if resolving its address
again changes nothing.  Then no case of that address is aborted because a page has not been found.
On a settled site this holds for all tests, and on no other, whatever pages there are. -/
theorem runs_its_page {settings : Settings} {suite : Suite} {catalog : Catalog}
    (hcatalog : Session.catalog settings.catalog = .ok catalog) :
    ∃ report, suite.run settings = .ok report ∧
      (∀ test ∈ suite.tests, ∀ page,
        let case := test.toCase suite.site
        suite.site.page? case.url = some page →
        (suite.site.Settled → RunsPage catalog suite.site case page) ∧
        (RunsPage catalog suite.site case page ↔ suite.site.resolveUrl case.url = case.url) ∧
        (RunsPage catalog suite.site case page →
          ∀ a ∈ report.aborted, a.url = case.url → a.code ≠ "NAVIGATION_FAILED")) ∧
      (suite.site.Settled ↔ ∀ pages, RunsPages catalog { suite.site with pages }) := by
  refine ⟨suite.runWith catalog settings.runner.failFast, by rw [run, hcatalog]; rfl, ?_,
    settled_iff_runsPages catalog suite.site⟩
  intro test _ page case hpage
  refine ⟨?_, runsPage_iff hpage, ?_⟩
  · intro hsettled
    exact (runsPage_iff hpage).mpr (hsettled.resolveUrl_resolveUrl test.url)
  · intro hruns a ha hurl
    obtain ⟨other, -, hout⟩ := case_of_aborted ha
    -- another test may have the same address; its case goes to the same page
    have hsame : other.url = case.url := by
      have hran := (agreement catalog suite.site other).ran
      rw [hout] at hran
      exact (congrArg Case.url hran).symm.trans hurl
    have hself := (runsPage_iff hpage).mp hruns
    have hl := Site.locate_of_page? (hself.symm ▸ hpage)
    rw [hself, ← hsame] at hl
    rw [runSeen_outcome] at hout
    rcases code_of_located hl hout with hcode | hcode <;> rw [hcode] <;> decide

/-- A suite on a settled site, whose base address ends with slashes. -/
theorem runs_its_page_settled :
    let settings : Settings :=
      { catalog := { reserved := (Session.capabilities.map (·.name)).erase "getTitle" } }
    let page : Page := { url := "http://app.test/a", script := [["getTitle", "", ""]] }
    let suite : Suite :=
      { name := "app", site := { baseUrl := some "http://app.test//", pages := [page] }
        tests := [{ url := "/a" }] }
    ∃ catalog report, Session.catalog settings.catalog = .ok catalog ∧
      suite.run settings = .ok report ∧
      RunsPage catalog suite.site ⟨"http://app.test/a", "http://app.test/a"⟩ page := by
  intro settings page suite
  have hbuilds : (Session.catalog settings.catalog).isOk = true := by decide +kernel
  cases hcatalog : Session.catalog settings.catalog with
  | error e =>
      rw [hcatalog] at hbuilds
      cases hbuilds
  | ok catalog =>
      obtain ⟨report, hrun, hall, -⟩ := @runs_its_page settings suite catalog hcatalog
      refine ⟨catalog, report, rfl, hrun, ?_⟩
      have hpage : suite.site.page? (suite.site.resolveUrl "/a") = some page := by decide +kernel
      have hsettled : suite.site.Settled := by
        intro base hbase
        cases hbase
        decide +kernel
      have hruns := (hall ⟨none, "/a"⟩ List.mem_cons_self page hpage).1 hsettled
      have hcase : SuiteTest.toCase suite.site ⟨none, "/a"⟩ =
          ⟨"http://app.test/a", "http://app.test/a"⟩ := by decide +kernel
      rwa [hcase] at hruns

/-- Under a base address that begins with a slash the page of a test is looked for elsewhere. -/
theorem run_resolves_twice :
    let settings : Settings :=
      { catalog := { reserved := (Session.capabilities.map (·.name)).erase "getTitle" } }
    let suite : Suite :=
      { name := "app", site := { baseUrl := some "/app", pages := [{ url := "/app/a" }] }
        tests := [{ url := "/a" }] }
    suite.site.page? (suite.site.resolveUrl "/a") = some { url := "/app/a" } ∧
      suite.run settings = .ok
        { name := "app"
          aborted := [⟨"/app/a", "/app/a", "NAVIGATION_FAILED",
            "Failed to navigate to '/app/app/a': no such page"⟩] } := by
  decide +kernel

end Suite

end TableTest
