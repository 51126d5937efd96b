/-
`TableTest.Proofs.Accounting` — every test of a suite is accounted for

Whatever the schedule, and whether or not a suite fails fast, its report accounts for every test:
the test is reported as finished or as aborted, or it has not been started, and that only because
another one was aborted.  So the report is a success exactly if every test passes by itself, which
no schedule can change.
-/
import TableTest.Proofs.SuiteReport

namespace TableTest

theorem CaseOutcome.isAborted_iff {outcome : CaseOutcome} :
    outcome.isAborted = true ↔ ∃ a, outcome = .aborted a := by
  cases outcome <;> simp [isAborted]

/-- Every one of a number of tests is reported or has not been started, and if one has not, another
was aborted. -/
structure SuiteReport.Accounts (report : SuiteReport) (total : Nat) : Prop where
  complete : report.cases.length + report.aborted.length + report.skipped = total
  counted : report.results.passed + report.results.failed = report.cases.length
  cause : 0 < report.skipped → report.aborted ≠ []

namespace Suite

variable {catalog : Catalog} {site : Site}

/-- Whether a listed test is aborted when it is run by itself. -/
def Aborts (catalog : Catalog) (site : Site) (test : SuiteTest) : Prop :=
  ∃ a, outcomeAlone catalog site test = .aborted a

/-- Whether a listed test passes when it is run by itself. -/
def Passes (catalog : Catalog) (site : Site) (test : SuiteTest) : Prop :=
  ∃ case, outcomeAlone catalog site test = .finished case ∧ case.passed = true

theorem Passes.not_aborts {test : SuiteTest} (h : Passes catalog site test) :
    ¬ Aborts catalog site test := by
  obtain ⟨case, hcase, -⟩ := h
  rintro ⟨a, ha⟩
  cases hcase.symm.trans ha

namespace Pool

variable {runner : RunnerSettings} {pool pool' : Pool}

/-! ## Nothing is left out unless a case was aborted -/

theorem Step.length_runs_le (hstep : Step catalog site runner pool pool') :
    (pool'.runs catalog site).length ≤ (pool.runs catalog site).length := by
  cases hstep <;>
    simp only [runs, List.length_append, List.length_map, List.length_cons, List.length_nil] <;>
    omega

/-- What has ended stays, whether it has been collected or not. -/
theorem Step.keeps {run : Finished} (hstep : Step catalog site runner pool pool')
    (hrun : run ∈ pool.ended ++ pool.collected) : run ∈ pool'.ended ++ pool'.collected := by
  cases hstep with
  | start _ | giveUp _ => exact hrun
  | finish _ =>
      rcases List.mem_append.mp hrun with h | h
      · exact List.mem_append_left _ (List.mem_append_left _ h)
      · exact List.mem_append_right _ h
  | collect =>
      simp only [List.mem_append, List.mem_cons, List.not_mem_nil, or_false] at hrun ⊢
      rcases hrun with (h | h | h) | h <;> simp [h]

/-- Only a case that is aborted stops a pool. -/
theorem Step.stops (hstep : Step catalog site runner pool pool') (hstop : pool'.stopped = true) :
    pool.stopped = true ∨ ∃ run ∈ pool'.ended, run.outcome.isAborted = true := by
  cases hstep with
  | start _ => cases hstop
  | giveUp _ | collect => exact Or.inl hstop
  | @finish _ _ _ _ _ _ _ stopped run _ =>
      rcases Bool.or_eq_true_iff.mp hstop with h | h
      · exact Or.inl h
      · exact Or.inr ⟨run, by simp, (Bool.and_eq_true_iff.mp h).2⟩

theorem Step.stays_stopped (hstep : Step catalog site runner pool pool')
    (hstopped : pool.stopped = true) : pool'.stopped = true := by
  cases hstep with
  | start _ => cases hstopped
  | giveUp _ => rfl
  | finish _ => exact Bool.or_eq_true_iff.mpr (Or.inl hstopped)
  | collect => exact hstopped

/-- Of the cases of a suite none is left out, unless one was aborted. -/
structure Accounted (catalog : Catalog) (site : Site) (cases : List Case) (pool : Pool) : Prop where
  started : (pool.runs catalog site).length ≤ cases.length
  complete : pool.stopped = false →
    (pool.runs catalog site).Perm (runFrom catalog site false 0 cases)
  cause : pool.stopped = true → ∃ run ∈ pool.ended ++ pool.collected, run.outcome.isAborted = true

theorem accounted_ofCases (catalog : Catalog) (site : Site) (cases : List Case) :
    (ofCases cases).Accounted catalog site cases where
  started := Nat.le_of_eq (by rw [runs_ofCases, length_runFrom_unhurried])
  complete _ := .of_eq (runs_ofCases cases)
  cause := nofun

theorem Accounted.step {cases : List Case} (h : pool.Accounted catalog site cases)
    (hstep : Step catalog site runner pool pool') : pool'.Accounted catalog site cases where
  started := Nat.le_trans hstep.length_runs_le h.started
  complete hgo := by
    cases hstopped : pool.stopped with
    | false => exact (hstep.runs_perm hstopped).trans (h.complete hstopped)
    | true => exact absurd (hgo.symm.trans (hstep.stays_stopped hstopped)) Bool.false_ne_true
  cause hstop := by
    rcases hstep.stops hstop with hstopped | ⟨run, hrun, habort⟩
    · obtain ⟨run, hrun, habort⟩ := h.cause hstopped
      exact ⟨run, hstep.keeps hrun, habort⟩
    · exact ⟨run, List.mem_append_left _ hrun, habort⟩

theorem Reaches.accounted {cases : List Case}
    (hreach : Reaches catalog site runner (ofCases cases) pool) :
    pool.Accounted catalog site cases := by
  induction hreach with
  | refl => exact accounted_ofCases catalog site cases
  | tail _ hstep ih => exact ih.step hstep

theorem Done.runs_eq (hdone : pool.Done) : pool.runs catalog site = pool.collected := by
  obtain ⟨hwaiting, hrunning, hended⟩ := hdone
  simp [runs, hwaiting, hrunning, hended]

end Pool

/-! ## The report of any schedule -/

section

variable {runner : RunnerSettings} {suite : Suite} {pool : Pool}

/-- A pool that has been stopped has a case to report that was aborted, and it is one of the
suite. -/
theorem Pool.Reaches.aborted_of_stopped
    (hreach : Reaches catalog suite.site runner (ofCases suite.cases) pool) (hdone : pool.Done)
    (hstopped : pool.stopped = true) :
    ∃ test ∈ suite.tests, ∃ a, outcomeAlone catalog suite.site test = .aborted a ∧
      a ∈ (collect suite.name suite.cases.length pool.collected).aborted := by
  obtain ⟨run, hrun, habort⟩ := hreach.accounted.cause hstopped
  rw [hdone.2.2, List.nil_append] at hrun
  obtain ⟨a, ha⟩ := CaseOutcome.isAborted_iff.mp habort
  obtain ⟨case, hcase, place, rfl⟩ := hreach.drawn.collected run hrun
  obtain ⟨test, htest, rfl⟩ := List.mem_map.mp hcase
  exact ⟨test, htest, a, ha, mem_aborted_collect.mpr ⟨_, hrun, by rw [ha]; rfl⟩⟩

theorem Pool.Reaches.accounts
    (hreach : Reaches catalog suite.site runner (ofCases suite.cases) pool) (hdone : pool.Done) :
    (collect suite.name suite.cases.length pool.collected).Accounts suite.tests.length := by
  obtain ⟨hstarted, hcomplete, -⟩ := hreach.accounted
  rw [hdone.runs_eq] at hstarted hcomplete
  have htotal : suite.cases.length = suite.tests.length := List.length_map _
  have hsorted := List.mergeSort_perm pool.collected fun a b => a.index ≤ b.index
  refine ⟨?_, ?_, ?_⟩
  · have hboth := CaseOutcome.length_report?_abortion? (·.outcome)
      (pool.collected.mergeSort fun a b => a.index ≤ b.index)
    rw [hsorted.length_eq] at hboth
    rw [collect, foldl_addTo]
    simp only [List.nil_append]
    omega
  · have hruns : ∀ run ∈ pool.collected.mergeSort (fun a b => a.index ≤ b.index),
        ∃ case place, run = runAt catalog suite.site place case := by
      intro run hrun
      obtain ⟨case, -, place, hat⟩ := hreach.drawn.collected run (hsorted.mem_iff.mp hrun)
      exact ⟨case, place, hat⟩
    rw [collect, foldl_addTo, foldl_merge hruns]
    exact (Results.total_tally {} _).trans (Nat.zero_add _)
  · intro hskipped hnone
    cases hstopped : pool.stopped with
    | true =>
        obtain ⟨-, -, a, -, hin⟩ := hreach.aborted_of_stopped hdone hstopped
        exact List.not_mem_nil (hnone ▸ hin)
    | false =>
        have hall := (hcomplete hstopped).length_eq
        rw [length_runFrom_unhurried] at hall
        rw [collect, foldl_addTo, hall, Nat.sub_self] at hskipped
        exact Nat.lt_irrefl 0 hskipped

/-- Whatever the schedule, the report is a success exactly if every test passes by itself. -/
theorem Pool.Reaches.isSuccess_iff
    (hreach : Reaches catalog suite.site runner (ofCases suite.cases) pool) (hdone : pool.Done) :
    (collect suite.name suite.cases.length pool.collected).isSuccess = true ↔
      ∀ test ∈ suite.tests, Passes catalog suite.site test := by
  cases hstopped : pool.stopped with
  | false =>
      have hperm := hreach.accounted.complete hstopped
      rw [hdone.runs_eq] at hperm
      rw [collect_eq_runWith hperm]
      exact (faithful catalog suite).success
  | true =>
      obtain ⟨test, htest, a, ha, hin⟩ := hreach.aborted_of_stopped hdone hstopped
      constructor
      · intro hsuccess
        have hnone := (SuiteReport.isSuccess_iff.mp hsuccess).2.1
        exact absurd (hnone ▸ hin) List.not_mem_nil
      · intro hall
        exact absurd ⟨a, ha⟩ (hall test htest).not_aborts

/-- Whether the cases of a suite have their permits, and some schedule of them comes to a report. -/
structure ComesTo (semaphores : Semaphores) (catalog : Catalog) (runner : RunnerSettings)
    (suite : Suite) (report : SuiteReport) : Prop where
  permitted : semaphores.Grants runner
  collected : ∃ pool, Pool.Reaches catalog suite.site runner (.ofCases suite.cases) pool ∧
    pool.Done ∧ collect suite.name suite.cases.length pool.collected = report

variable {semaphores : Semaphores} {report : SuiteReport}

theorem ComesTo.accounts (h : suite.ComesTo semaphores catalog runner report) :
    report.Accounts suite.tests.length := by
  obtain ⟨pool, hreach, hdone, rfl⟩ := h.collected
  exact hreach.accounts hdone

theorem ComesTo.isSuccess_iff (h : suite.ComesTo semaphores catalog runner report) :
    report.isSuccess = true ↔ ∀ test ∈ suite.tests, Passes catalog suite.site test := by
  obtain ⟨pool, hreach, hdone, rfl⟩ := h.collected
  exact hreach.isSuccess_iff hdone

end

end Suite

end TableTest
