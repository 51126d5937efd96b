/-
`TableTest.Proofs.Collection` — the report of a suite

The cases of a suite are collected as they end, in whatever order that is.  Sorting them by
their places puts them back in the order of the suite, so the report does not depend on how many
of them ran at once: it lists what became of each case in the order of the suite.
-/
import TableTest.Suite.Run

namespace TableTest

/-! ## What became of a case -/

namespace CaseOutcome

/-- The case that was run. -/
def case : CaseOutcome → Case
  | finished report => ⟨report.name, report.url⟩
  | aborted case => ⟨case.name, case.url⟩

/-- The report of a case that ran to its end. -/
def report? : CaseOutcome → Option CaseReport
  | finished report => some report
  | aborted _ => none

/-- What there is to say of a case that was aborted. -/
def abortion? : CaseOutcome → Option AbortedCase
  | finished _ => none
  | aborted case => some case

@[simp] theorem report?_finished (case : CaseReport) : (finished case).report? = some case := rfl

@[simp] theorem report?_aborted (case : AbortedCase) : (aborted case).report? = none := rfl

@[simp] theorem abortion?_finished (case : CaseReport) : (finished case).abortion? = none := rfl

@[simp] theorem abortion?_aborted (case : AbortedCase) :
    (aborted case).abortion? = some case := rfl

end CaseOutcome

namespace Suite

variable {catalog : Catalog} {site : Site} {failFast : Bool}

/-! ## The places of the cases -/

theorem index_of_mem_runFrom : ∀ {cases : List Case} {k : Nat} {run : Finished},
    run ∈ runFrom catalog site failFast k cases → k ≤ run.index
  | [], _, _, h => absurd h List.not_mem_nil
  | case :: cases, k, run, h => by
      rw [runFrom] at h
      split at h
      · rw [List.mem_singleton.mp h]
        exact Nat.le_refl k
      · rcases List.mem_cons.mp h with rfl | h
        · exact Nat.le_refl k
        · exact Nat.le_of_succ_le (index_of_mem_runFrom h)

theorem runFrom_ascending : ∀ (cases : List Case) (k : Nat),
    (runFrom catalog site failFast k cases).Pairwise (·.index < ·.index)
  | [], _ => .nil
  | case :: cases, k => by
      rw [runFrom]
      split
      · exact List.pairwise_singleton _ _
      · exact .cons (fun _ h => index_of_mem_runFrom h) (runFrom_ascending cases (k + 1))

/-- Unless a suite fails fast, every case of it is run. -/
theorem runFrom_unhurried : ∀ (cases : List Case) (k : Nat),
    runFrom catalog site false k cases =
      (cases.zipIdx k).map fun (case, i) => runAt catalog site i case
  | [], _ => rfl
  | case :: cases, k => by
      rw [runFrom, List.zipIdx_cons, List.map_cons, runFrom_unhurried cases (k + 1)]
      rfl

theorem length_runFrom_unhurried (cases : List Case) (k : Nat) :
    (runFrom catalog site false k cases).length = cases.length := by
  rw [runFrom_unhurried, List.length_map, List.length_zipIdx]

theorem runAt_of_mem_runFrom : ∀ {cases : List Case} {k : Nat} {run : Finished},
    run ∈ runFrom catalog site failFast k cases →
      ∃ case ∈ cases, ∃ place, run = runAt catalog site place case
  | [], _, _, h => absurd h List.not_mem_nil
  | case :: cases, k, run, h => by
      rw [runFrom] at h
      split at h
      · exact ⟨case, List.mem_cons_self, k, List.mem_singleton.mp h⟩
      · rcases List.mem_cons.mp h with rfl | h
        · exact ⟨case, List.mem_cons_self, k, rfl⟩
        · obtain ⟨other, hin, hrun⟩ := runAt_of_mem_runFrom h
          exact ⟨other, List.mem_cons_of_mem _ hin, hrun⟩

/-- What becomes of a case does not depend on its place. -/
theorem outcomes_unhurried (cases : List Case) (k : Nat) :
    (runFrom catalog site false k cases).map (·.outcome) =
      cases.map fun case => outcomeOf case (runAlone catalog site case).outcome :=
  calc (runFrom catalog site false k cases).map (·.outcome)
      = ((cases.zipIdx k).map Prod.fst).map fun case =>
          outcomeOf case (runAlone catalog site case).outcome := by
        rw [runFrom_unhurried, List.map_map, List.map_map]
        rfl
    _ = _ := by rw [List.zipIdx_map_fst]

/-! ## Collecting -/

/-- Sorting by place undoes any shuffling. -/
theorem sorted_of_perm {runs collected : List Finished}
    (ha : runs.Pairwise (·.index < ·.index)) (hp : collected.Perm runs) :
    collected.mergeSort (fun a b => a.index ≤ b.index) = runs := by
  have hsorted := (List.mergeSort_perm collected fun a b => a.index ≤ b.index).trans hp
  have hle : (collected.mergeSort fun a b => a.index ≤ b.index).Pairwise
      (·.index ≤ ·.index) := by
    refine (List.pairwise_mergeSort (fun a b c hab hbc => ?_) (fun a b => ?_) collected).imp
      of_decide_eq_true
    · simp only [decide_eq_true_eq] at hab hbc ⊢
      exact Nat.le_trans hab hbc
    · simp only [Bool.or_eq_true, decide_eq_true_eq]
      exact Nat.le_total a.index b.index
  -- no two places are the same, so what is sorted ascends strictly
  have hne := (hsorted.pairwise_iff (R := (·.index ≠ ·.index)) Ne.symm).mpr
    (ha.imp Nat.ne_of_lt)
  have hlt := hle.and hne |>.imp fun h => Nat.lt_of_le_of_ne h.1 h.2
  exact hsorted.eq_of_pairwise (fun _ _ _ _ h h' => absurd h' (Nat.lt_asymm h)) hlt ha

theorem foldl_addTo : ∀ (runs : List Finished) (report : SuiteReport),
    runs.foldl addTo report =
      { report with
        results := (runs.map (·.results)).foldl .merge report.results
        cases := report.cases ++ runs.filterMap (·.outcome.report?)
        aborted := report.aborted ++ runs.filterMap (·.outcome.abortion?) }
  | [], report => by simp
  | run :: runs, report => by
      rw [List.foldl_cons, foldl_addTo runs]
      cases ho : run.outcome <;> simp [addTo, ho]

/-- What is reported as aborted is what was collected as such. -/
theorem mem_aborted_collect {name : String} {total : Nat} {runs : List Finished}
    {a : AbortedCase} :
    a ∈ (collect name total runs).aborted ↔
      ∃ run ∈ runs, run.outcome.abortion? = some a := by
  rw [collect, foldl_addTo]
  simp

/-- The report of cases that were started in the order of the suite, in whatever order they
ended and were collected. -/
theorem collect_of_perm {runs collected : List Finished} (name : String) (total : Nat)
    (ha : runs.Pairwise (·.index < ·.index)) (hp : collected.Perm runs) :
    collect name total collected =
      { name
        results := (runs.map (·.results)).foldl .merge {}
        cases := runs.filterMap (·.outcome.report?)
        aborted := runs.filterMap (·.outcome.abortion?)
        skipped := total - runs.length } := by
  rw [collect, sorted_of_perm ha hp, foldl_addTo, hp.length_eq]
  rfl

/-- The order in which the cases of a suite end does not show in its report. -/
theorem collect_eq_runWith {suite : Suite} {collected : List Finished}
    (hp : collected.Perm (runFrom catalog suite.site failFast 0 suite.cases)) :
    collect suite.name suite.cases.length collected = suite.runWith catalog failFast := by
  have ha : (runFrom catalog suite.site failFast 0 suite.cases).Pairwise (·.index < ·.index) :=
    runFrom_ascending suite.cases 0
  rw [runWith, collect_of_perm _ _ ha hp, collect_of_perm _ _ ha (.refl _)]

end Suite

end TableTest
