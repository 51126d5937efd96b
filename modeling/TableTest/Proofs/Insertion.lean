/-
`TableTest.Proofs.Insertion` — one step more, which leaves the state as it is

A step that leaves every state as it is can be put anywhere into a script.  Executed whatever they
come to, the other steps come to what they would have come to without it, at the same addresses.
Executed until one fails, they end in the same way if the new step passes when its turn comes; the
steps behind it have moved up by one place, and that is all a case that runs them tells of it.
-/
import TableTest.Proofs.CaseRun

namespace TableTest

variable {σ : Type} {h : Handle σ}

/-! ## Executing every step -/

namespace Step

/-- The step leaves every state of the handle as it is. -/
def Idle (h : Handle σ) (step : Step) : Prop := ∀ s, (step.execute h s).2 = s

/-- What each step comes to and the address at which it leaves the handle, if steps are executed in
their order whatever they come to. -/
def log (h : Handle σ) : List Step → σ → List (Except Failure Value × Option String)
  | [], _ => []
  | step :: steps, s =>
    let done := step.execute h s
    (done.1, h.location done.2) :: log h steps done.2

theorem length_log (h : Handle σ) (steps : List Step) (s : σ) :
    (log h steps s).length = steps.length := by
  induction steps generalizing s with
  | nil => rfl
  | cons step steps ih => simp [log, ih]

theorem log_append (h : Handle σ) (first rest : List Step) (s : σ) :
    log h (first ++ rest) s = log h first s ++ log h rest (after h first s) := by
  induction first generalizing s with
  | nil => rfl
  | cons step first ih =>
      simp only [List.cons_append, log, ih]
      rfl

variable {step : Step}

theorem Idle.after_cons (hidle : step.Idle h) (steps : List Step) (s : σ) :
    after h (step :: steps) s = after h steps s := by
  rw [Step.after_cons, hidle]

theorem Idle.log_cons (hidle : step.Idle h) (steps : List Step) (s : σ) :
    (log h (step :: steps) s).eraseIdx 0 = log h steps s := by
  show log h steps (step.execute h s).2 = log h steps s
  rw [hidle]

/-- A step that leaves the state as it is makes no difference to the others, wherever it stands. -/
theorem Idle.insert (hidle : step.Idle h) (first rest : List Step) (s : σ) :
    (log h (first ++ step :: rest) s).eraseIdx first.length = log h (first ++ rest) s ∧
      after h (first ++ step :: rest) s = after h (first ++ rest) s := by
  constructor
  · have hlen := length_log h first s
    rw [log_append, log_append, List.eraseIdx_append_of_length_le (Nat.le_of_eq hlen), hlen,
      Nat.sub_self, hidle.log_cons]
  · rw [after_append, after_append, hidle.after_cons]

end Step

/-! ## Executing steps until one fails -/

namespace Case

open Step

/-- The number of a step when another one has been put in as number `n`. -/
def movedUp (n k : Nat) : Nat := if k < n then k else k + 1

/-- The ending of an execution when a step that does not end it has been put in as number `n`. -/
def Ending.movedUp (n : Nat) : Ending → Ending
  | .allPassed => .allPassed
  | .stopped k step e => .stopped (Case.movedUp n k) step e

/-- If the steps before it all pass, the step does. -/
def PassesAfter (h : Handle σ) (first : List Step) (step : Step) (s : σ) : Prop :=
  (∀ i < first.length, ∃ v, resultAt h first s i = some (.ok v)) →
    ∃ v, (step.execute h (after h first s)).1 = .ok v

theorem PassesAfter.tail {before step : Step} {first : List Step} {s : σ} {v : Value}
    (hpass : PassesAfter h (before :: first) step s) (hv : (before.execute h s).1 = .ok v) :
    PassesAfter h first step (before.execute h s).2 := by
  intro hall
  refine hpass ?_
  intro i hi
  cases i with
  | zero => exact ⟨v, congrArg some hv⟩
  | succ i => exact hall i (Nat.lt_of_succ_lt_succ hi)

theorem executeAll_movedUp (h : Handle σ) {n : Nat} (steps : List Step) (k : Nat) (s : σ)
    (hk : n ≤ k) : executeAll h (k + 1) steps s =
      ((executeAll h k steps s).1.movedUp n, (executeAll h k steps s).2) := by
  induction steps generalizing k s with
  | nil => rfl
  | cons step steps ih =>
      cases hv : (step.execute h s).1 with
      | ok v =>
          rw [executeAll_cons_ok hv, executeAll_cons_ok hv]
          exact ih (k + 1) _ (Nat.le_succ_of_le hk)
      | error e =>
          rw [executeAll_cons_error hv, executeAll_cons_error hv, Ending.movedUp, movedUp,
            if_neg (Nat.not_lt.mpr hk)]

/-- A step that leaves the state as it is and passes when its turn comes does not change how an
execution ends. -/
theorem executeAll_insert {step : Step} (hidle : step.Idle h) (first rest : List Step) (k : Nat)
    (s : σ) (hpass : PassesAfter h first step s) :
    executeAll h k (first ++ step :: rest) s =
      ((executeAll h k (first ++ rest) s).1.movedUp (k + first.length),
        (executeAll h k (first ++ rest) s).2) := by
  induction first generalizing k s with
  | nil =>
      obtain ⟨v, hv⟩ : ∃ v, (step.execute h s).1 = .ok v :=
        hpass fun i hi => absurd hi (Nat.not_lt_zero i)
      rw [List.nil_append, List.nil_append, executeAll_cons_ok hv, hidle]
      exact executeAll_movedUp h rest k s (Nat.le_refl k)
  | cons before first ih =>
      cases hv : (before.execute h s).1 with
      | ok v =>
          rw [List.cons_append, List.cons_append, executeAll_cons_ok hv, executeAll_cons_ok hv,
            ih (k + 1) _ (hpass.tail hv), List.length_cons, Nat.add_right_comm, Nat.add_assoc]
      | error e =>
          have hk : k < k + (before :: first).length := Nat.lt_add_of_pos_right (Nat.zero_lt_succ _)
          rw [List.cons_append, List.cons_append, executeAll_cons_error hv,
            executeAll_cons_error hv, Ending.movedUp, movedUp, if_pos hk]

/-! ## Running a case -/

/-- What a case comes to, and what it comes to with one step more, put in as number `n`: it passes
both times, or the same step fails in the same way, or the same failure aborts it. -/
inductive Lengthened (case : Case) (n : Nat) :
    Except Failure CaseReport → Except Failure CaseReport → Prop
  | passed {total : Nat} :
      Lengthened case n (.ok (case.passed total)) (.ok (case.passed (total + 1)))
  | failed {k total : Nat} {step : Step} {e : Failure} :
      Lengthened case n (.ok (case.failed k total (failureText k step e)))
        (.ok (case.failed (movedUp n k) (total + 1) (failureText (movedUp n k) step e)))
  | aborted {e : Failure} : Lengthened case n (.error e) (.error e)

theorem lengthened_conclude (case : Case) (n total : Nat) (results : Results) (ending : Ending) :
    Lengthened case n (case.conclude total results ending).1
      (case.conclude (total + 1) results (ending.movedUp n)).1 := by
  cases ending with
  | allPassed => exact .passed
  | stopped k step e =>
      simp only [Ending.movedUp, conclude]
      split
      · exact .failed
      · exact .aborted

variable {catalog : Catalog} {load load' : Loader} {case : Case}

/-- Running a case with a row more, whose step leaves the state as it is and passes when its turn
comes. -/
theorem lengthened_run {row : Row} {step : Step} {first rest : List Row} (s : σ)
    (results : Results) (hrow : catalog.resolveRow row = .ok step) (hidle : step.Idle h)
    (hload : load case.url = .ok (first ++ rest))
    (hload' : load' case.url = .ok (first ++ row :: rest))
    (hpass : ∀ before, catalog.resolve first = .ok before →
      PassesAfter h before step (case.goTo h s).2) :
    Lengthened case (first.length + 1) (case.run catalog load h s results).outcome
        (case.run catalog load' h s results).outcome ∧
      (case.run catalog load' h s results).state = (case.run catalog load h s results).state := by
  rcases hgo : case.goTo h s with ⟨e | ⟨⟨⟩⟩, t⟩
  · rw [run_of_lost hgo, run_of_lost hgo]
    exact ⟨.aborted, rfl⟩
  have hsteps := steps_of_loaded catalog hload
  have hsteps' := steps_of_loaded catalog hload'
  rcases Catalog.resolve_insert hrow first rest with
    ⟨e, hr, hr'⟩ | ⟨before, after, hfirst, hr, hr'⟩
  · rw [run_of_unresolved hgo (hsteps.trans hr), run_of_unresolved hgo (hsteps'.trans hr')]
    exact ⟨.aborted, rfl⟩
  · have hp : PassesAfter h before step t := by
      have hp := hpass before hfirst
      rwa [hgo] at hp
    have hlen : (before ++ step :: after).length = (before ++ after).length + 1 := by simp +arith
    rw [run_of_resolved hgo (hsteps.trans hr), run_of_resolved hgo (hsteps'.trans hr'),
      executeAll_insert hidle before after 1 t hp, hlen, Catalog.resolve_length hfirst,
      Nat.add_comm 1]
    exact ⟨lengthened_conclude case _ _ results _, rfl⟩

/-- Either way the case counts as passed, as failed or not at all. -/
theorem Lengthened.counts {n : Nat} {outcome outcome' : Except Failure CaseReport}
    (hl : Lengthened case n outcome outcome') (results : Results) :
    let count (o : Except Failure CaseReport) := results.tally o.toOption.toList
    (count outcome').passed = (count outcome).passed ∧
      (count outcome').failed = (count outcome).failed := by
  cases hl with
  | passed | failed | aborted => exact ⟨rfl, rfl⟩

end Case

end TableTest
