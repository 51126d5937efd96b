/-
`TableTest.Proofs.SuiteAgreement` — checking a suite tells how running it goes

Checking loads and resolves the script of a case and nothing else; running does so too, but in a
session that has to go to the page first.  Both look the page up in the same way, so they find the
same error or the same steps.  Once there are steps, what aborts a run is a fatal invocation,
because a step fails with nothing else that is not a domain failure.
-/
import TableTest.Proofs.CaseRun
import TableTest.Proofs.Collection
import TableTest.Proofs.SessionChange
import TableTest.Suite.Check

namespace TableTest

/-- The case that was checked. -/
def CheckReport.case (check : CheckReport) : Case := ⟨check.name, check.url⟩

namespace Suite

variable {catalog : Catalog} {site : Site} {case : Case}

/-! ## One case -/

/-- Runs a case by itself, in a new session, and keeps the calls that the session sees. -/
def runSeen (catalog : Catalog) (site : Site) (case : Case) : CaseRun (Session × List Call) :=
  case.run catalog site.loadRows (Session.handle site).traced ({}, []) {}

/-- A check of a case and a run of it agree. -/
structure Agreement (site : Site) (case : Case) (check : CheckReport)
    (run : CaseRun (Session × List Call)) : Prop where
  /-- Both are about the case. -/
  checked : check.case = case
  ran : (outcomeOf case run.outcome).case = case
  /-- An error of the check is what aborts the run, and nothing but going to the page is done
  before. -/
  broken : ∀ text, check.error = some text →
    ∃ code ∈ ["NAVIGATION_FAILED", "UNKNOWN_COMMAND"],
      outcomeOf case run.outcome = .aborted ⟨case.name, case.url, code, text⟩ ∧
      run.state.2 = [.navigate case.url]
  /-- Without an error the steps are those of the page that the run goes to; it comes to its end
  or to a fatal invocation. -/
  sound : check.error = none → ∃ url page, site.locate case.url = .ok (url, page) ∧
    check.steps = page.script.countP (3 ≤ ·.length) ∧
    ((∃ report, outcomeOf case run.outcome = .finished report ∧
        report.stepsTotal = check.steps) ∨
      ∃ text, outcomeOf case run.outcome =
        .aborted ⟨case.name, case.url, "FATAL_INVOCATION", text⟩)

theorem goTo_new (site : Site) (case : Case) :
    case.goTo (Session.handle site) {} = Session.navigate site case.url {} := by
  simp [Case.goTo, Session.handle]

theorem approach_new (site : Site) (case : Case) :
    case.approach (Session.handle site) {} = [.navigate case.url] := by
  simp [Case.approach, Session.handle]

theorem goTo_lost {e : Failure} (hl : site.locate case.url = .error e) :
    case.goTo (Session.handle site) {} = (.error e, {}) := by
  rw [goTo_new]
  exact Session.load_of_error hl

theorem goTo_found {url : String} {page : Page} (hl : site.locate case.url = .ok (url, page)) :
    case.goTo (Session.handle site) {} = (.ok (), Session.arrive url page {}) := by
  rw [goTo_new]
  exact Session.load_ok_iff.mpr ⟨url, page, hl, rfl⟩

theorem loadRows_lost {e : Failure} (hl : site.locate case.url = .error e) :
    site.loadRows case.url = .error e := by
  simp [Site.loadRows, hl, Except.map]

theorem loadRows_found {url : String} {page : Page}
    (hl : site.locate case.url = .ok (url, page)) :
    site.loadRows case.url = .ok (Row.ofTable page.script) := by
  simp [Site.loadRows, hl, Except.map]

/-- Keeping the calls does not change what becomes of a case. -/
theorem runSeen_outcome (catalog : Catalog) (site : Site) (case : Case) :
    (runSeen catalog site case).outcome = (runAlone catalog site case).outcome := by
  obtain ⟨made, h⟩ := case.run_traced catalog site.loadRows (Session.handle site) {} [] {}
  rw [runSeen, h]
  rfl

/-- A script that does not resolve breaks the check and aborts the run. -/
theorem agreement_of_error {run : CaseRun (Session × List Call)} {e : Failure}
    (hsteps : case.steps catalog site.loadRows = .error e)
    (hcode : e.code ∈ ["NAVIGATION_FAILED", "UNKNOWN_COMMAND"])
    (hout : run.outcome = .error e) (hcalls : run.state.2 = [.navigate case.url]) :
    Agreement site case (checkCase catalog site case) run where
  checked := by rw [checkCase, hsteps]; rfl
  ran := by rw [hout]; rfl
  broken text htext := by
    rw [checkCase, hsteps] at htext
    cases htext
    exact ⟨e.code, hcode, by rw [hout]; rfl, hcalls⟩
  sound hnone := by
    rw [checkCase, hsteps] at hnone
    cases hnone

/-- A script that resolves passes the check; then the run ends as its execution does. -/
theorem agreement_of_steps {url : String} {page : Page} {steps : List Step} {k : Nat}
    {f : Option Failure} {s : Session} {run : CaseRun (Session × List Call)}
    (hl : site.locate case.url = .ok (url, page))
    (hsteps : case.steps catalog site.loadRows = .ok steps)
    (hlen : steps.length = (Row.ofTable page.script).length)
    (hp : Case.Progress (Session.handle site) steps s k f)
    (hv : Case.Verdict case steps {} k f run.outcome run.results) :
    Agreement site case (checkCase catalog site case) run := by
  have hcheck : checkCase catalog site case = ⟨case.name, case.url, steps.length, none⟩ := by
    rw [checkCase, hsteps]
  have hcount : steps.length = page.script.countP (3 ≤ ·.length) :=
    hlen.trans (Row.length_ofTable page.script)
  rw [hcheck]
  obtain ⟨outcome, state, results⟩ := run
  refine ⟨rfl, ?_, fun _ htext => (by cases htext), fun _ => ⟨url, page, hl, hcount, ?_⟩⟩
  · cases hv <;> rfl
  cases hv with
  | passed => exact Or.inl ⟨_, rfl, rfl⟩
  | failed _ _ _ => exact Or.inl ⟨_, rfl, rfl⟩
  | aborted he =>
      rcases hp.fails with hd | ⟨m, as, r, rfl⟩
      · rw [he] at hd
        cases hd
      · exact Or.inr ⟨_, rfl⟩

theorem agreement (catalog : Catalog) (site : Site) (case : Case) :
    Agreement site case (checkCase catalog site case) (runSeen catalog site case) := by
  have hcourse : Case.Course catalog site.loadRows (Session.handle site) case {} [] {}
      (runSeen catalog site case) := Case.run_course _ _ _ _ _ _ _
  have hgo := approach_new site case
  cases hl : site.locate case.url with
  | error e =>
      have hsteps := Case.steps_of_unloaded catalog (loadRows_lost hl)
      obtain ⟨hout, hstate⟩ := hcourse.lost _ e (goTo_lost hl)
      refine agreement_of_error hsteps ?_ hout (by rw [hstate, hgo]; rfl)
      rw [Site.locate_error hl]
      exact List.mem_cons_self
  | ok found =>
      obtain ⟨url, page⟩ := found
      have hrows := loadRows_found hl
      have hsteps := Case.steps_of_loaded catalog hrows
      cases hr : catalog.resolve (Row.ofTable page.script) with
      | error e =>
          obtain ⟨hout, hstate⟩ := hcourse.unresolved _ _ e (goTo_found hl) hrows hr
          refine agreement_of_error (hsteps.trans hr) ?_ hout (by rw [hstate, hgo]; rfl)
          obtain ⟨row, -, rfl⟩ := Catalog.resolve_fails hr
          exact List.mem_cons_of_mem _ List.mem_cons_self
      | ok steps =>
          obtain ⟨hlen, k, f, hp, -, hv⟩ := hcourse.executed _ _ _ (goTo_found hl) hrows hr
          exact agreement_of_steps hl (hsteps.trans hr) hlen hp hv

theorem aborted_of_runAt {site : Site} {place : Nat} {case : Case} {a : AbortedCase}
    (ha : (runAt catalog site place case).outcome.abortion? = some a) :
    outcomeOf case (runSeen catalog site case).outcome = .aborted a := by
  rw [runAt, ← runSeen_outcome] at ha
  cases ho : outcomeOf case (runSeen catalog site case).outcome with
  | finished report =>
      rw [ho] at ha
      cases ha
  | aborted other =>
      rw [ho] at ha
      cases ha
      rfl

/-- Whatever a suite reports as aborted is a case that is aborted by itself. -/
theorem case_of_aborted {suite : Suite} {failFast : Bool} {a : AbortedCase}
    (ha : a ∈ (suite.runWith catalog failFast).aborted) :
    ∃ case ∈ suite.cases,
      outcomeOf case (runSeen catalog suite.site case).outcome = .aborted a := by
  obtain ⟨run, hrun, hout⟩ := mem_aborted_collect.mp ha
  obtain ⟨case, hcase, place, rfl⟩ := runAt_of_mem_runFrom hrun
  exact ⟨case, hcase, aborted_of_runAt hout⟩

/-! ## All cases -/

/-- What becomes of the cases of a suite, each run by itself. -/
def outcomes (catalog : Catalog) (suite : Suite) : List CaseOutcome :=
  suite.cases.map fun case => outcomeOf case (runSeen catalog suite.site case).outcome

/-- The checks and the report of a suite agree. -/
structure Concord (catalog : Catalog) (suite : Suite) (checks : List CheckReport)
    (report : SuiteReport) : Prop where
  /-- The order in which the cases end does not show in the report. -/
  unordered : ∀ runs, runs.Perm (runFrom catalog suite.site false 0 suite.cases) →
    collect suite.name suite.cases.length runs = report
  /-- Both are about the cases of the suite, in its order. -/
  checked : checks.map (·.case) = suite.cases
  ran : (outcomes catalog suite).map (·.case) = suite.cases
  finished : report.cases = (outcomes catalog suite).filterMap (·.report?)
  aborted : report.aborted = (outcomes catalog suite).filterMap (·.abortion?)
  skipped : report.skipped = 0
  /-- Case by case they agree. -/
  agree : ∀ (i : Nat) (case : Case) (check : CheckReport), suite.cases[i]? = some case →
    checks[i]? = some check → Agreement suite.site case check (runSeen catalog suite.site case)

theorem concord (catalog : Catalog) (suite : Suite) :
    Concord catalog suite (suite.cases.map (checkCase catalog suite.site))
      (suite.runWith catalog false) := by
  have hout : (runFrom catalog suite.site false 0 suite.cases).map (·.outcome) =
      outcomes catalog suite := by
    simp only [outcomes_unhurried, outcomes, runSeen_outcome]
  have hran : suite.runWith catalog false = _ :=
    collect_of_perm suite.name suite.cases.length (runFrom_ascending suite.cases 0) (.refl _)
  exact
    { unordered := fun runs hp => collect_eq_runWith hp
      checked := by
        rw [List.map_map]
        exact List.map_id'' (fun case => (agreement catalog suite.site case).checked) _
      ran := by
        rw [outcomes, List.map_map]
        exact List.map_id'' (fun case => (agreement catalog suite.site case).ran) _
      finished := by
        rw [hran, ← hout, List.filterMap_map]
        rfl
      aborted := by
        rw [hran, ← hout, List.filterMap_map]
        rfl
      skipped := by
        rw [hran, length_runFrom_unhurried]
        exact Nat.sub_self _
      agree := fun i case check hcase hcheck => by
        rw [List.getElem?_map, hcase] at hcheck
        cases hcheck
        exact agreement catalog suite.site case }

/-- A run that succeeds aborts nothing, so nothing in its suite is broken. -/
theorem Concord.unbroken {suite : Suite} {checks : List CheckReport} {report : SuiteReport}
    (hc : Concord catalog suite checks report) (hsuccess : report.isSuccess = true) :
    ∀ check ∈ checks, check.error = none := by
  intro check hmem
  have hempty : (outcomes catalog suite).filterMap (·.abortion?) = [] := by
    rw [← hc.aborted]
    simp only [SuiteReport.isSuccess, Bool.and_eq_true, List.isEmpty_iff] at hsuccess
    exact hsuccess.1.2
  obtain ⟨i, hi⟩ := List.mem_iff_getElem?.mp hmem
  obtain ⟨case, hcase⟩ : ∃ case, suite.cases[i]? = some case := by
    rw [← hc.checked, List.getElem?_map, hi]
    exact ⟨_, rfl⟩
  cases herr : check.error with
  | none => rfl
  | some text =>
      obtain ⟨code, -, habort, -⟩ := (hc.agree i case check hcase hi).broken text herr
      have hnone := List.filterMap_eq_nil_iff.mp hempty _
        (List.mem_map.mpr ⟨case, List.mem_of_getElem? hcase, habort⟩)
      cases hnone

/-- For a suite that does not fail fast, checking and running agree on every case, and the run
succeeds only if no check has an error.  It comes to its report if it is granted its permits. -/
theorem check_agrees_run {settings : Settings} {suite : Suite} {catalog : Catalog}
    (hcatalog : Session.catalog settings.catalog = .ok catalog)
    (hslow : settings.runner.failFast = false) :
    ∃ checks report, suite.check settings.catalog = .ok checks ∧
      suite.run settings = .ok report ∧
      (∀ semaphores : Semaphores, semaphores.Grants settings.runner →
        suite.launch semaphores settings = .ok report) ∧
      Concord catalog suite checks report ∧
      (report.isSuccess = true → ∀ check ∈ checks, check.error = none) := by
  have hc := concord catalog suite
  have hrun : suite.run settings = .ok (suite.runWith catalog false) := by
    rw [run, hcatalog, hslow]
    rfl
  refine ⟨_, _, ?_, hrun, ?_, hc, hc.unbroken⟩
  · rw [check, hcatalog]
    rfl
  · intro semaphores hpermits
    rw [launch_of_grants hpermits, hrun, Except.mapError_of_ok]

theorem check_agrees_run_lost :
    let settings : Settings :=
      { catalog := { reserved := (Session.capabilities.map (·.name)).erase "getTitle" } }
    let suite : Suite := { name := "lost", tests := [{ url := "/lost" }] }
    settings.runner.failFast = false ∧
      ∃ catalog checks report, Session.catalog settings.catalog = .ok catalog ∧
        suite.check settings.catalog = .ok checks ∧ suite.run settings = .ok report ∧
        suite.launch {} settings = .ok report ∧ Concord catalog suite checks report ∧
        report.isSuccess = false := by
  intro settings suite
  have hbuilds : (Session.catalog settings.catalog).toOption.isSome = true := by decide +kernel
  cases hcatalog : Session.catalog settings.catalog with
  | error e =>
      rw [hcatalog] at hbuilds
      cases hbuilds
  | ok catalog =>
      obtain ⟨checks, report, hcheck, hrun, hlaunch, hc, hsuccess⟩ :=
        @check_agrees_run settings suite catalog hcatalog rfl
      refine ⟨rfl, catalog, checks, report, rfl, hcheck, hrun, hlaunch {} (by decide), hc, ?_⟩
      have hbroken : ∃ check ∈ checks, check.error ≠ none := by
        rw [check, hcatalog] at hcheck
        cases hcheck
        exact ⟨_, List.mem_cons_self, Option.some_ne_none _⟩
      obtain ⟨check, hmem, herr⟩ := hbroken
      exact Bool.eq_false_iff.mpr fun hs => herr (hsuccess hs check hmem)

end Suite

end TableTest
