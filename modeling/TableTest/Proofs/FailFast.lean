/-
`TableTest.Proofs.FailFast` — a suite that stops at the first case that aborts

With one permit the cases of a suite run in turn, and whether to start the next one is decided when
the case before it has ended.  So a suite that fails fast runs its cases up to the first that
aborts, and its report is the one that it would have if it ended there, with the number of cases
that have not been started.  A case that fails as the page does stops nothing.
-/
import TableTest.Proofs.Accounting

namespace TableTest

namespace Suite

variable {catalog : Catalog} {site : Site}

/-! ## Up to the first case that aborts -/

/-- The runs up to the first that was aborted, with that one. -/
def upToAbort : List Finished → List Finished
  | [] => []
  | run :: runs => if run.outcome.isAborted then [run] else run :: upToAbort runs

theorem upToAbort_of_none {runs : List Finished}
    (h : ∀ run ∈ runs, run.outcome.isAborted = false) : upToAbort runs = runs := by
  induction runs with
  | nil => rfl
  | cons run runs ih =>
      rw [List.forall_mem_cons] at h
      rw [upToAbort, h.1, ih h.2]
      rfl

theorem upToAbort_append_cons {before after : List Finished} {run : Finished}
    (hbefore : ∀ run ∈ before, run.outcome.isAborted = false)
    (hrun : run.outcome.isAborted = true) :
    upToAbort (before ++ run :: after) = before ++ [run] := by
  induction before with
  | nil => rw [List.nil_append, upToAbort, if_pos hrun, List.nil_append]
  | cons first before ih =>
      rw [List.forall_mem_cons] at hbefore
      rw [List.cons_append, upToAbort, hbefore.1, ih hbefore.2]
      rfl

theorem runFrom_hurried (cases : List Case) (k : Nat) :
    runFrom catalog site true k cases = upToAbort (runFrom catalog site false k cases) := by
  induction cases generalizing k with
  | nil => rfl
  | cons case cases ih =>
      simp only [runFrom, upToAbort, ih, Bool.true_and, Bool.false_and, Bool.false_eq_true,
        if_false]

theorem runFrom_append (cases more : List Case) (k : Nat) :
    runFrom catalog site false k (cases ++ more) =
      runFrom catalog site false k cases ++
        runFrom catalog site false (k + cases.length) more := by
  rw [runFrom_unhurried, runFrom_unhurried, runFrom_unhurried, List.zipIdx_append, List.map_append]

/-- Whether the runs of tests are aborted is decided test by test. -/
theorem isAborted_of_mem_runFrom {tests : List SuiteTest} {k : Nat} {run : Finished}
    (hnone : ∀ test ∈ tests, ¬ Aborts catalog site test)
    (hrun : run ∈ runFrom catalog site false k (tests.map (·.toCase site))) :
    run.outcome.isAborted = false := by
  obtain ⟨case, hcase, place, rfl⟩ := runAt_of_mem_runFrom hrun
  obtain ⟨test, htest, rfl⟩ := List.mem_map.mp hcase
  refine Bool.eq_false_iff.mpr ?_
  intro habort
  exact hnone test htest (CaseOutcome.isAborted_iff.mp habort)

variable {suite : Suite} {first rest : List SuiteTest} {stop : SuiteTest}

theorem runFrom_stop (htests : suite.tests = first ++ stop :: rest)
    (hnone : ∀ test ∈ first, ¬ Aborts catalog suite.site test)
    (hstop : Aborts catalog suite.site stop) :
    runFrom catalog suite.site true 0 suite.cases =
      runFrom catalog suite.site false 0 (cases { suite with tests := first ++ [stop] }) := by
  have hruns : ∀ run ∈ runFrom catalog suite.site false 0 (first.map (·.toCase suite.site)),
      run.outcome.isAborted = false := by
    intro run hrun
    exact isAborted_of_mem_runFrom hnone hrun
  have hrun (place : Nat) :
      (runAt catalog suite.site place (stop.toCase suite.site)).outcome.isAborted = true :=
    CaseOutcome.isAborted_iff.mpr hstop
  simp only [cases, htests, List.map_append, List.map_cons, List.map_nil]
  rw [runFrom_hurried, runFrom_append, runFrom_append]
  exact upToAbort_append_cons hruns (hrun _)

/-- The report of a suite that fails fast is that of the suite up to the first test that is aborted,
except that it counts the others. -/
theorem runWith_stop (htests : suite.tests = first ++ stop :: rest)
    (hnone : ∀ test ∈ first, ¬ Aborts catalog suite.site test)
    (hstop : Aborts catalog suite.site stop) :
    suite.runWith catalog true =
      { runWith catalog false { suite with tests := first ++ [stop] } with
        skipped := rest.length } := by
  have hlength : suite.cases.length - (first ++ [stop]).length = rest.length := by
    rw [cases, List.length_map, htests, List.length_append, List.length_append]
    simp only [List.length_cons, List.length_nil]
    omega
  have hcut : (cases { suite with tests := first ++ [stop] }).length = (first ++ [stop]).length :=
    List.length_map _
  rw [runWith, collect_of_perm _ _ (runFrom_ascending _ 0) (.refl _),
    runFrom_stop htests hnone hstop, runWith,
    collect_of_perm _ _ (runFrom_ascending _ 0) (.refl _), length_runFrom_unhurried, hcut, hlength]

theorem runWith_unstopped (hnone : ∀ test ∈ suite.tests, ¬ Aborts catalog suite.site test) :
    suite.runWith catalog true = suite.runWith catalog false := by
  rw [runWith, runFrom_hurried, upToAbort_of_none fun run hrun => ?_]
  · rfl
  · exact isAborted_of_mem_runFrom hnone hrun

/-- The report `fast` of a suite that fails fast beside the report `slow` of all its cases, when the
first test to be aborted stands between others. -/
structure Truncated (catalog : Catalog) (suite : Suite) (fast slow : SuiteReport)
    (first : List SuiteTest) (stop : SuiteTest) (rest : List SuiteTest) : Prop where
  /-- The tests before it are reported as they are in the other report. -/
  cases : fast.cases = slow.cases.take first.length
  finished : fast.cases.length = first.length
  /-- It is the only one that is reported as aborted, and the first in the other report. -/
  aborted : ∃ a, outcomeAlone catalog suite.site stop = .aborted a ∧ fast.aborted = [a] ∧
    slow.aborted.head? = some a
  /-- Nothing is counted but what is reported. -/
  results : fast.results = Results.tally {} fast.cases
  /-- The tests behind it have not been started. -/
  skipped : fast.skipped = rest.length
  /-- So it is the report of the suite that ends there, but for that number. -/
  ends : runWith catalog false { suite with tests := first ++ [stop] } = { fast with skipped := 0 }

theorem truncated (htests : suite.tests = first ++ stop :: rest)
    (hnone : ∀ test ∈ first, ¬ Aborts catalog suite.site test)
    (hstop : Aborts catalog suite.site stop) :
    Truncated catalog suite (suite.runWith catalog true) (suite.runWith catalog false)
      first stop rest := by
  obtain ⟨a, ha⟩ := hstop
  -- every test before the one that is aborted has a report
  have hfinished : ∀ test ∈ first, (outcomeAlone catalog suite.site test).abortion? = none := by
    intro test htest
    cases ho : outcomeAlone catalog suite.site test with
    | finished _ => rfl
    | aborted b => exact absurd ⟨b, ho⟩ (hnone test htest)
  have habortions : (first.filterMap fun test =>
      (outcomeAlone catalog suite.site test).abortion?) = [] :=
    List.filterMap_eq_nil_iff.mpr hfinished
  have hlength : (first.filterMap fun test =>
      (outcomeAlone catalog suite.site test).report?).length = first.length := by
    have hboth := CaseOutcome.length_report?_abortion? (outcomeAlone catalog suite.site) first
    rwa [habortions, List.length_nil, Nat.add_zero] at hboth
  rw [runWith_stop htests hnone ⟨a, ha⟩, runWith_eq, runWith_eq]
  simp only [htests, List.filterMap_append, List.filterMap_cons, List.filterMap_nil, ha,
    CaseOutcome.report?_aborted, CaseOutcome.abortion?_aborted, habortions, List.append_nil,
    List.nil_append]
  exact
    { cases := by rw [← hlength, List.take_left]
      finished := hlength
      aborted := ⟨a, ha, rfl, rfl⟩
      results := rfl
      skipped := rfl
      ends := by
        rw [runWith_eq]
        simp only [List.filterMap_append, List.filterMap_cons, List.filterMap_nil, ha,
          CaseOutcome.report?_aborted, CaseOutcome.abortion?_aborted, habortions,
          List.append_nil, List.nil_append] }

/-! ## Cases that run in turn -/

namespace Pool

variable {runner : RunnerSettings} {pool pool' : Pool}

/-- No more cases run than there are permits. -/
theorem Step.running_le (hstep : Step catalog site runner pool pool')
    (hle : pool.running.length ≤ runner.permits) : pool'.running.length ≤ runner.permits := by
  cases hstep with
  | start hfree =>
      rw [List.length_append, List.length_singleton]
      exact hfree
  | giveUp _ => exact hle
  | finish _ =>
      simp only [List.length_append, List.length_cons] at hle ⊢
      omega
  | collect => exact hle

/-- What cases that run in turn come to if the suite fails fast, all taken together: once the pool
has been stopped, nothing is started any more. -/
def runsInTurn (catalog : Catalog) (site : Site) (pool : Pool) : List Finished :=
  let run : Case × Nat → Finished := fun (case, place) => runAt catalog site place case
  pool.collected ++ pool.ended ++
    if pool.stopped then pool.running.map run
    else upToAbort ((pool.running ++ pool.waiting).map run)

theorem Step.runsInTurn_perm (hstep : Step catalog site runner pool pool')
    (hfast : runner.failFast = true) (hone : pool.running.length ≤ 1) :
    (pool'.runsInTurn catalog site).Perm (pool.runsInTurn catalog site) := by
  cases hstep with
  | start _ => exact .of_eq (by simp [runsInTurn])
  | giveUp _ => exact .refl _
  | @finish waiting before after case place ended collected stopped run hrun =>
      subst hrun
      cases stopped with
      | true =>
          simp only [runsInTurn, Bool.true_or, if_true, List.append_assoc, List.map_append,
            List.map_cons, List.cons_append, List.nil_append]
          exact (List.perm_middle.symm.append_left _).append_left _
      | false =>
          -- the case that has ended is the only one that was running
          obtain ⟨rfl, rfl⟩ : before = [] ∧ after = [] := by
            rw [List.length_append, List.length_cons] at hone
            exact ⟨List.length_eq_zero_iff.mp (by omega), List.length_eq_zero_iff.mp (by omega)⟩
          refine .of_eq ?_
          cases ha : (runAt catalog site place case).outcome.isAborted <;>
            simp [runsInTurn, upToAbort, hfast, ha]
  | collect =>
      simp only [runsInTurn, List.append_assoc, List.cons_append, List.nil_append]
      exact List.perm_middle.symm.append_left _

theorem Reaches.runsInTurn_perm {cases : List Case} (hfast : runner.failFast = true)
    (hone : runner.parallelism ≤ 1)
    (hreach : Reaches catalog site runner (ofCases cases) pool) :
    pool.running.length ≤ runner.permits ∧
      (pool.runsInTurn catalog site).Perm (runFrom catalog site true 0 cases) := by
  induction hreach with
  | refl =>
      refine ⟨Nat.zero_le _, .of_eq ?_⟩
      rw [runFrom_hurried, runFrom_unhurried]
      rfl
  | tail _ hstep ih =>
      have hle := ih.1
      rw [RunnerSettings.permits, Nat.max_eq_left hone] at hle
      exact ⟨hstep.running_le ih.1, (hstep.runsInTurn_perm hfast hle).trans ih.2⟩

/-- With one permit, what is collected in the end are the runs up to the first that was aborted. -/
theorem Reaches.collected_perm_hurried {cases : List Case} (hfast : runner.failFast = true)
    (hone : runner.parallelism ≤ 1)
    (hreach : Reaches catalog site runner (ofCases cases) pool) (hdone : pool.Done) :
    pool.collected.Perm (runFrom catalog site true 0 cases) := by
  obtain ⟨hwaiting, hrunning, hended⟩ := hdone
  have hperm := (hreach.runsInTurn_perm hfast hone).2
  simpa [runsInTurn, hwaiting, hrunning, hended, upToAbort] using hperm

end Pool

/-- The report of a suite that runs its cases in turn is what every schedule of them comes to,
whether or not the suite fails fast. -/
theorem collect_in_turn {runner : RunnerSettings} {pool : Pool} (hone : runner.parallelism ≤ 1)
    (hreach : Pool.Reaches catalog suite.site runner (.ofCases suite.cases) pool)
    (hdone : pool.Done) :
    collect suite.name suite.cases.length pool.collected =
      suite.runWith catalog runner.failFast := by
  cases hfast : runner.failFast with
  | true => exact collect_eq_runWith (hreach.collected_perm_hurried hfast hone hdone)
  | false => exact collect_eq_runWith (hreach.collected_perm hfast hdone)

/-- One permit is always there, so what can happen with one can happen with any number. -/
theorem Pool.Step.of_one {runner : RunnerSettings} {pool pool' : Pool}
    (hstep : Pool.Step catalog site ⟨1, runner.failFast⟩ pool pool') :
    Pool.Step catalog site runner pool pool' := by
  have hone : (RunnerSettings.mk 1 runner.failFast).permits ≤ runner.permits := runner.permits_pos
  cases hstep with
  | start hfree => exact .start (Nat.lt_of_lt_of_le hfree hone)
  | giveUp hfree => exact .giveUp (Nat.lt_of_lt_of_le hfree hone)
  | finish hrun => exact .finish hrun
  | collect => exact .collect

/-- However many cases may run at once, they can run in turn. -/
theorem exists_in_turn (catalog : Catalog) (runner : RunnerSettings) (suite : Suite) :
    ∃ pool, Pool.Reaches catalog suite.site runner (.ofCases suite.cases) pool ∧ pool.Done ∧
      collect suite.name suite.cases.length pool.collected =
        suite.runWith catalog runner.failFast := by
  obtain ⟨last, hreach, hdone⟩ :=
    Pool.exists_done catalog suite.site ⟨1, runner.failFast⟩ (.ofCases suite.cases)
  have hwide : Pool.Reaches catalog suite.site runner (.ofCases suite.cases) last :=
    Relation.ReflTransGen.mono (fun _ _ hstep => hstep.of_one) _ _ hreach
  have hreport := collect_in_turn (Nat.le_refl 1) hreach hdone
  exact ⟨last, hwide, hdone, hreport⟩

/-- With one permit, a suite that fails fast stops at the first test that is aborted: what is
reported before that is the same as if it did not fail fast, and the others are counted as not
started.  If no test is aborted it makes no difference, however many fail.  However many cases run
at once, every schedule can be brought to its end, and its report accounts for every test. -/
theorem fail_fast_truncates {settings : CatalogSettings} {catalog : Catalog}
    (hcatalog : Session.catalog settings = .ok catalog) (suite : Suite) :
    (∀ parallelism ≤ 1, ∃ fast slow,
      suite.run ⟨settings, parallelism, true⟩ = .ok fast ∧
      suite.run ⟨settings, parallelism, false⟩ = .ok slow ∧
      (∀ semaphores : Semaphores,
        suite.launch semaphores ⟨settings, parallelism, true⟩ = .ok fast ∧
        suite.launch semaphores ⟨settings, parallelism, false⟩ = .ok slow) ∧
      (∀ failFast pool,
        Pool.Reaches catalog suite.site ⟨parallelism, failFast⟩ (.ofCases suite.cases) pool →
        pool.Done →
        collect suite.name suite.cases.length pool.collected = if failFast then fast else slow) ∧
      Faithful catalog suite slow ∧
      (∀ first stop rest, suite.tests = first ++ stop :: rest →
        (∀ test ∈ first, ¬ Aborts catalog suite.site test) → Aborts catalog suite.site stop →
        Truncated catalog suite fast slow first stop rest) ∧
      ((∀ test ∈ suite.tests, ¬ Aborts catalog suite.site test) →
        fast = slow ∧ fast.skipped = 0)) ∧
    ∀ runner,
      (∃ report, suite.run ⟨settings, runner⟩ = .ok report ∧
        report.Accounts suite.tests.length) ∧
      ∀ pool, Pool.Reaches catalog suite.site runner (.ofCases suite.cases) pool →
        (∃ last, Pool.Reaches catalog suite.site runner pool last ∧ last.Done) ∧
        (pool.Done →
          (collect suite.name suite.cases.length pool.collected).Accounts suite.tests.length) := by
  have hrun (runner : RunnerSettings) :
      suite.run ⟨settings, runner⟩ = .ok (suite.runWith catalog runner.failFast) := by
    rw [run, hcatalog]
    rfl
  constructor
  · intro parallelism hone
    refine ⟨_, _, hrun ⟨parallelism, true⟩, hrun ⟨parallelism, false⟩, ?_, ?_,
      faithful catalog suite, ?_, ?_⟩
    · intro semaphores
      rw [launch_of_grants (semaphores.grants_of_le_one hone),
        launch_of_grants (semaphores.grants_of_le_one hone), hrun, hrun]
      exact ⟨rfl, rfl⟩
    · intro failFast pool hreach hdone
      rw [collect_in_turn hone hreach hdone]
      cases failFast with
      | true => rfl
      | false => rfl
    · intro first stop rest htests hnone hstop
      exact truncated htests hnone hstop
    · intro hnone
      have hsame := runWith_unstopped hnone
      exact ⟨hsame, hsame ▸ (faithful catalog suite).skipped⟩
  · intro runner
    obtain ⟨pool, hreach, hdone, hreport⟩ := exists_in_turn catalog runner suite
    refine ⟨⟨_, hrun runner, hreport ▸ hreach.accounts hdone⟩, ?_⟩
    intro pool hreach
    exact ⟨Pool.exists_done catalog suite.site runner pool, fun hdone => hreach.accounts hdone⟩

/-- A suite of three tests: the first one fails, the page of the second is missing, and the third is
not started. -/
theorem fail_fast_truncates_lost :
    let settings : CatalogSettings :=
      { reserved := (Session.capabilities.map (·.name)).erase "getTitle" }
    let home : Page :=
      { url := "/home", title := "Home", script := [["assertTitle", "Away", ""]] }
    let suite : Suite :=
      { name := "three", site := { pages := [home] }
        tests := [⟨none, "/home"⟩, ⟨none, "/lost"⟩, ⟨none, "/home"⟩] }
    let failed : CaseReport := Case.failed ⟨"/home", "/home"⟩ 1 1
      "Step 1 (assertTitle): Assertion failed: Expected \"Away\" but saw \"Home\" instead"
    let lost : AbortedCase :=
      ⟨"/lost", "/lost", "NAVIGATION_FAILED", "Failed to navigate to '/lost': no such page"⟩
    ∃ fast slow, suite.run ⟨settings, 0, true⟩ = .ok fast ∧
      suite.run ⟨settings, 0, false⟩ = .ok slow ∧ slow.cases = [failed, failed] ∧
      fast.cases = [failed] ∧ fast.aborted = [lost] ∧ fast.skipped = 1 := by
  intro settings home suite failed lost
  have houtcomes : (Session.catalog settings).map (fun catalog =>
      [outcomeAlone catalog suite.site ⟨none, "/home"⟩,
        outcomeAlone catalog suite.site ⟨none, "/lost"⟩]) =
      .ok [.finished failed, .aborted lost] := by decide +kernel
  obtain ⟨catalog, hcatalog, hout⟩ := Except.map_ok_iff.mp houtcomes
  simp only [List.cons.injEq, and_true] at hout
  obtain ⟨hfailed, hlost⟩ := hout
  obtain ⟨hturn, -⟩ := fail_fast_truncates hcatalog suite
  obtain ⟨fast, slow, hfast, hslow, -, -, hfaithful, hcut, -⟩ := hturn 0 (Nat.zero_le 1)
  have hall : slow.cases = [failed, failed] := by
    rw [hfaithful.finished]
    simp only [suite, List.filterMap_cons, List.filterMap_nil, hfailed, hlost,
      CaseOutcome.report?_finished, CaseOutcome.report?_aborted]
  have hnone : ∀ test ∈ [(⟨none, "/home"⟩ : SuiteTest)], ¬ Aborts catalog suite.site test := by
    rw [List.forall_mem_singleton]
    rintro ⟨a, ha⟩
    cases hfailed.symm.trans ha
  have htruncated :=
    hcut [⟨none, "/home"⟩] ⟨none, "/lost"⟩ [⟨none, "/home"⟩] rfl hnone ⟨lost, hlost⟩
  refine ⟨fast, slow, hfast, hslow, hall, ?_, ?_, htruncated.skipped⟩
  · rw [htruncated.cases, hall]
    rfl
  · obtain ⟨a, ha, haborted, -⟩ := htruncated.aborted
    cases hlost.symm.trans ha
    exact haborted

end Suite

end TableTest
