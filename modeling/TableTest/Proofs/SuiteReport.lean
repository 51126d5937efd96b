/-
`TableTest.Proofs.SuiteReport` — a suite's report says of every test what it comes to by itself

A report says the same thing more than once: it lists the cases that ran to their end, counts
those that passed and those that failed, and gathers why they failed.  All of it is settled by
what each test comes to when it is run by itself, so the parts agree with each other and with the
suite, and the report does not depend on how the tests were scheduled.  A test that is moved,
added or removed changes nothing about the others.
-/
import TableTest.Proofs.CaseRun
import TableTest.Proofs.Scheduling

namespace TableTest

/-! ## Finished and aborted cases -/

namespace CaseOutcome

/-- Each outcome is either that of a case that ran to its end or that of an aborted one. -/
theorem length_report?_abortion? {α : Type} (outcome : α → CaseOutcome) : ∀ l : List α,
    (l.filterMap fun a => (outcome a).report?).length +
      (l.filterMap fun a => (outcome a).abortion?).length = l.length
  | [] => rfl
  | a :: l => by
      have ih := length_report?_abortion? outcome l
      cases ho : outcome a <;> simp [ho] <;> omega

theorem passed_iff {outcome : CaseOutcome} :
    (∃ case, outcome = .finished case ∧ case.passed = true) ↔
      outcome.abortion? = none ∧ ∀ case, outcome.report? = some case → case.passed = true := by
  cases outcome with
  | finished case => simp
  | aborted case => simp

/-- Every case ran to its end and passed exactly when none was aborted and no report says that it
did not pass. -/
theorem all_passed_iff {α : Type} (outcome : α → CaseOutcome) (l : List α) :
    ((l.filterMap fun a => (outcome a).report?).countP (!·.passed) = 0 ∧
        (l.filterMap fun a => (outcome a).abortion?) = []) ↔
      ∀ a ∈ l, ∃ case, outcome a = .finished case ∧ case.passed = true := by
  simp only [passed_iff, List.countP_eq_zero, List.mem_filterMap, List.filterMap_eq_nil_iff]
  constructor
  · rintro ⟨hpassed, hnone⟩ a ha
    exact ⟨hnone a ha, fun case hcase => by simpa using hpassed case ⟨a, ha, hcase⟩⟩
  · intro hall
    exact ⟨fun case ⟨a, ha, hcase⟩ => by simp [(hall a ha).2 case hcase],
      fun a ha => (hall a ha).1⟩

end CaseOutcome

theorem SuiteReport.isSuccess_iff {report : SuiteReport} : report.isSuccess = true ↔
    report.results.failed = 0 ∧ report.aborted = [] ∧ report.skipped = 0 := by
  simp [isSuccess, Results.isSuccess, and_assoc]

/-! ## What is counted -/

theorem failures_of_reports {reports : List CaseReport}
    (hall : ∀ report ∈ reports, report.failure.isSome = !report.passed) :
    (reports.filterMap (·.failure)).map some =
      (reports.filter (!·.passed)).map (·.failure) := by
  rw [List.map_filterMap_some_eq_filter_map_isSome, List.filter_map]
  exact congrArg _ (List.filter_congr hall)

namespace Suite

variable {catalog : Catalog} {site : Site}

/-- What a listed test comes to by itself, in a session of its own. -/
def outcomeAlone (catalog : Catalog) (site : Site) (test : SuiteTest) : CaseOutcome :=
  outcomeOf (test.toCase site) (runAlone catalog site (test.toCase site)).outcome

theorem runAt_results (catalog : Catalog) (site : Site) (place : Nat) (case : Case) :
    (runAt catalog site place case).results =
      Results.tally {} (runAt catalog site place case).outcome.report?.toList := by
  simp only [runAt, runAlone, Case.run_results]
  cases (case.run catalog site.loadRows (Session.handle site) {} {}).outcome <;> rfl

/-- Every run records its own report, so the results of runs are those of their reports. -/
theorem foldl_merge {runs : List Finished}
    (hruns : ∀ run ∈ runs, ∃ case place, run = runAt catalog site place case) (results : Results) :
    (runs.map (·.results)).foldl .merge results =
      results.tally (runs.filterMap (·.outcome.report?)) := by
  induction runs generalizing results with
  | nil => exact results.tally_nil.symm
  | cons run runs ih =>
      rw [List.forall_mem_cons] at hruns
      obtain ⟨⟨case, place, rfl⟩, hrest⟩ := hruns
      rw [List.map_cons, List.foldl_cons, ih hrest, runAt_results, Results.merge_tally,
        ← Results.tally_append]
      cases ho : (runAt catalog site place case).outcome <;> simp [ho]

/-! ## The report of a suite -/

/-- The report of a suite is true to what its tests come to by themselves. -/
structure Faithful (catalog : Catalog) (suite : Suite) (report : SuiteReport) : Prop where
  /-- Every test that ran to its end is reported, in the order of the suite. -/
  finished : report.cases =
    suite.tests.filterMap fun test => (outcomeAlone catalog suite.site test).report?
  /-- So is every test that was aborted. -/
  aborted : report.aborted =
    suite.tests.filterMap fun test => (outcomeAlone catalog suite.site test).abortion?
  /-- That accounts for every test. -/
  complete : report.cases.length + report.aborted.length = suite.tests.length
  skipped : report.skipped = 0
  /-- The counts are those of the reports. -/
  passed : report.results.passed = report.cases.countP (·.passed)
  failed : report.results.failed = report.cases.countP (!·.passed)
  counted : report.results.passed + report.results.failed = report.cases.length
  /-- The texts of failures are those of the reports that did not pass, in their order. -/
  failures : report.results.failures.map some =
    (report.cases.filter (!·.passed)).map (·.failure)
  /-- The suite succeeds exactly when every test ran to its end and passed. -/
  success : report.isSuccess = true ↔ ∀ test ∈ suite.tests, ∃ case,
    outcomeAlone catalog suite.site test = .finished case ∧ case.passed = true

theorem filterMap_runFrom {α : Type} (catalog : Catalog) (suite : Suite)
    (take : CaseOutcome → Option α) :
    (runFrom catalog suite.site false 0 suite.cases).filterMap (fun run => take run.outcome) =
      suite.tests.filterMap fun test => take (outcomeAlone catalog suite.site test) :=
  calc (runFrom catalog suite.site false 0 suite.cases).filterMap (fun run => take run.outcome)
      = ((runFrom catalog suite.site false 0 suite.cases).map (·.outcome)).filterMap take := by
        rw [List.filterMap_map]
        rfl
    _ = (suite.tests.map (outcomeAlone catalog suite.site)).filterMap take := by
        rw [outcomes_unhurried, cases, List.map_map]
        rfl
    _ = _ := by
        rw [List.filterMap_map]
        rfl

theorem runWith_eq (catalog : Catalog) (suite : Suite) :
    suite.runWith catalog false =
      { name := suite.name
        results := Results.tally {}
          (suite.tests.filterMap fun test => (outcomeAlone catalog suite.site test).report?)
        cases :=
          suite.tests.filterMap fun test => (outcomeAlone catalog suite.site test).report?
        aborted :=
          suite.tests.filterMap fun test => (outcomeAlone catalog suite.site test).abortion?
        skipped := 0 } := by
  have hruns : ∀ run ∈ runFrom catalog suite.site false 0 suite.cases,
      ∃ case place, run = runAt catalog suite.site place case := by
    intro run hrun
    obtain ⟨case, -, place, hat⟩ := runAt_of_mem_runFrom hrun
    exact ⟨case, place, hat⟩
  rw [runWith, collect_of_perm _ _ (runFrom_ascending suite.cases 0) (.refl _), foldl_merge hruns,
    filterMap_runFrom, filterMap_runFrom, length_runFrom_unhurried, Nat.sub_self]

theorem failure_of_outcomeAlone {test : SuiteTest} {case : CaseReport}
    (hcase : (outcomeAlone catalog site test).report? = some case) :
    case.failure.isSome = !case.passed := by
  unfold outcomeAlone at hcase
  cases hrun : (runAlone catalog site (test.toCase site)).outcome with
  | error e =>
      rw [hrun] at hcase
      cases hcase
  | ok report =>
      rw [hrun] at hcase
      cases hcase
      exact Case.run_failure hrun

theorem faithful (catalog : Catalog) (suite : Suite) :
    Faithful catalog suite (suite.runWith catalog false) := by
  rw [runWith_eq]
  exact
    { finished := rfl
      aborted := rfl
      complete := CaseOutcome.length_report?_abortion? _ _
      skipped := rfl
      passed := Nat.zero_add _
      failed := Nat.zero_add _
      counted := (Results.total_tally {} _).trans (Nat.zero_add _)
      failures := failures_of_reports fun report hmem => by
        -- a report has a failure exactly if it did not pass, because its run drew it up so
        obtain ⟨test, -, hcase⟩ := List.mem_filterMap.mp hmem
        exact failure_of_outcomeAlone hcase
      success := by
        rw [SuiteReport.isSuccess_iff, ← CaseOutcome.all_passed_iff]
        simp only [Results.tally, Nat.zero_add, and_true] }

/-- A suite that does not fail fast is reported truly if it is granted its permits, however its
cases are scheduled and in whatever order they are collected.  Every schedule can be brought to its
end.  If tests are moved or removed, or others are added, what is reported of the rest stays the
same. -/
theorem run_faithful {settings : Settings} {suite : Suite} {catalog : Catalog}
    (hcatalog : Session.catalog settings.catalog = .ok catalog)
    (hslow : settings.runner.failFast = false) :
    ∃ report, suite.run settings = .ok report ∧
      (∀ semaphores : Semaphores, semaphores.Grants settings.runner →
        suite.launch semaphores settings = .ok report) ∧
      Faithful catalog suite report ∧
      (∀ runs, runs.Perm (runFrom catalog suite.site false 0 suite.cases) →
        collect suite.name suite.cases.length runs = report) ∧
      (∀ pool, Pool.Reaches catalog suite.site settings.runner (.ofCases suite.cases) pool →
        (∃ last, Pool.Reaches catalog suite.site settings.runner pool last ∧ last.Done) ∧
        (pool.Done → collect suite.name suite.cases.length pool.collected = report)) ∧
      ∀ tests, ∃ other, Suite.run settings { suite with tests } = .ok other ∧
        Faithful catalog { suite with tests } other ∧
        (tests.Perm suite.tests →
          other.cases.Perm report.cases ∧ other.aborted.Perm report.aborted) ∧
        (tests.Sublist suite.tests →
          other.cases.Sublist report.cases ∧ other.aborted.Sublist report.aborted) := by
  have hrun (suite : Suite) : suite.run settings = .ok (suite.runWith catalog false) := by
    rw [run, hcatalog, hslow]
    rfl
  refine ⟨_, hrun suite, ?_, faithful catalog suite, fun runs hp => collect_eq_runWith hp,
    fun pool hreach => ?_, fun tests => ?_⟩
  · intro semaphores hpermits
    rw [launch_of_grants hpermits, hrun, Except.mapError_of_ok]
  · exact ⟨Pool.exists_done catalog suite.site settings.runner pool,
      fun hdone => collect_eq_runWith (hreach.collected_perm hslow hdone)⟩
  · refine ⟨_, hrun { suite with tests }, faithful catalog { suite with tests }, ?_⟩
    simp only [runWith_eq]
    exact ⟨fun hp => ⟨hp.filterMap _, hp.filterMap _⟩,
      fun hs => ⟨hs.filterMap _, hs.filterMap _⟩⟩

/-- A suite of two tests: the page of the first is missing, and the second passes. -/
theorem run_faithful_lost :
    let settings : Settings :=
      { catalog := { reserved := (Session.capabilities.map (·.name)).erase "getTitle" } }
    let home : Page :=
      { url := "/home", title := "Home", script := [["assertTitle", "Home", ""]] }
    let lost : AbortedCase :=
      ⟨"/lost", "/lost", "NAVIGATION_FAILED", "Failed to navigate to '/lost': no such page"⟩
    let suite : Suite :=
      { name := "two", site := { pages := [home] }, tests := [⟨none, "/lost"⟩, ⟨none, "/home"⟩] }
    ∃ report, suite.run settings = .ok report ∧ suite.launch {} settings = .ok report ∧
      report.isSuccess = false ∧
      report.cases = [Case.passed ⟨"/home", "/home"⟩ 1] ∧ report.aborted = [lost] := by
  intro settings home lost suite
  have houtcomes : (Session.catalog settings.catalog).map (fun catalog =>
      suite.tests.map (outcomeAlone catalog suite.site)) =
      .ok [.aborted lost, .finished (Case.passed ⟨"/home", "/home"⟩ 1)] := by decide +kernel
  obtain ⟨catalog, hcatalog, hout⟩ := Except.map_ok_iff.mp houtcomes
  obtain ⟨report, hrun, hlaunch, hfaithful, -⟩ :=
    @run_faithful settings suite catalog hcatalog rfl
  obtain ⟨hlost, hhome⟩ : outcomeAlone catalog suite.site ⟨none, "/lost"⟩ = .aborted lost ∧
      outcomeAlone catalog suite.site ⟨none, "/home"⟩ =
        .finished (Case.passed ⟨"/home", "/home"⟩ 1) := by
    simpa only [suite, List.map_cons, List.map_nil, List.cons.injEq, and_true] using hout
  refine ⟨report, hrun, hlaunch {} (by decide), Bool.eq_false_iff.mpr fun hsuccess => ?_, ?_, ?_⟩
  · obtain ⟨case, hcase, -⟩ := hfaithful.success.mp hsuccess _ List.mem_cons_self
    cases hlost.symm.trans hcase
  · rw [hfaithful.finished]
    simp only [suite, List.filterMap_cons, List.filterMap_nil, hlost, hhome,
      CaseOutcome.report?_aborted, CaseOutcome.report?_finished]
  · rw [hfaithful.aborted]
    simp only [suite, List.filterMap_cons, List.filterMap_nil, hlost, hhome,
      CaseOutcome.abortion?_aborted, CaseOutcome.abortion?_finished]

end Suite

end TableTest
