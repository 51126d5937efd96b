/-
`TableTest.Proofs.CaseRun` — what running cases does to a handle and to the results

A run has five ways out: the page of the case cannot be reached, its script cannot be loaded or
cannot be resolved, every step succeeds, or a step fails.  `Course` says of a run which calls
the handle sees, in which state it is left, what is reported and what is recorded.  Cases that
are run one after the other on one handle each take such a course from where the one before
ended, so in the end the results have grown by exactly what was reported.
-/
import TableTest.Proofs.Execution
import TableTest.Proofs.Resolution

namespace TableTest

/-! ## Recording reports -/

/-- The results with the reports of some cases counted in. -/
def Results.tally (results : Results) (reports : List CaseReport) : Results where
  passed := results.passed + reports.countP (·.passed)
  failed := results.failed + reports.countP (!·.passed)
  failures := results.failures ++ reports.filterMap (·.failure)

theorem Results.tally_nil (results : Results) : results.tally [] = results := by
  simp [tally]

theorem Results.tally_append (results : Results) (before after : List CaseReport) :
    results.tally (before ++ after) = (results.tally before).tally after := by
  simp [tally, Nat.add_assoc]

theorem Results.merge_tally (results : Results) (reports : List CaseReport) :
    results.merge (Results.tally {} reports) = results.tally reports := by
  simp [merge, tally]

theorem Results.total_tally (results : Results) (reports : List CaseReport) :
    (results.tally reports).total = results.total + reports.length := by
  have h : reports.countP (·.passed) + reports.countP (!·.passed) = reports.length := by
    induction reports with
    | nil => rfl
    | cons report reports ih => cases hr : report.passed <;> simp [hr] <;> omega
  simp only [tally, total]
  omega

namespace Case

open Step

variable {σ : Type} {catalog : Catalog} {load : Loader} {h : Handle σ} {case : Case}

/-! ## The ways out of a run -/

/-- The call that takes a handle to the page of a case: none if it is there. -/
def approach (h : Handle σ) (case : Case) (s : σ) : List Call :=
  if h.location s = some case.url then [] else [.navigate case.url]

theorem goTo_traced (h : Handle σ) (case : Case) (s : σ) (cs : List Call) :
    case.goTo h.traced (s, cs) =
      ((case.goTo h s).1, (case.goTo h s).2, cs ++ case.approach h s) := by
  by_cases hl : h.location s = some case.url <;>
    simp [goTo, approach, Handle.traced, Handle.keep, hl]

theorem run_of_lost {s s₁ : σ} {e : Failure} (hgo : case.goTo h s = (.error e, s₁))
    (results : Results) : case.run catalog load h s results = ⟨.error e, s₁, results⟩ := by
  simp [run, hgo]

theorem run_of_unresolved {s s₁ : σ} {e : Failure} (hgo : case.goTo h s = (.ok (), s₁))
    (hs : case.steps catalog load = .error e) (results : Results) :
    case.run catalog load h s results = ⟨.error e, s₁, results⟩ := by
  simp [run, hgo, hs]

theorem run_of_resolved {s s₁ : σ} {steps : List Step} (hgo : case.goTo h s = (.ok (), s₁))
    (hs : case.steps catalog load = .ok steps) (results : Results) :
    case.run catalog load h s results =
      ⟨(case.conclude steps.length results (executeAll h 1 steps s₁).1).1,
        (executeAll h 1 steps s₁).2,
        (case.conclude steps.length results (executeAll h 1 steps s₁).1).2⟩ := by
  simp [run, hgo, hs]

/-! ## What a run reports and records -/

/-- What a case comes to when its steps have been executed up to number `k` and the failure `f`
has ended that: its outcome, and the results with its record. -/
inductive Verdict (case : Case) (steps : List Step) (results : Results) :
    Nat → Option Failure → Except Failure CaseReport → Results → Prop
  | passed : Verdict case steps results steps.length none
      (.ok ⟨case.name, case.url, .completed, true, steps.length, steps.length, none⟩)
      { results with passed := results.passed + 1 }
  | failed {i : Nat} {step : Step} {e : Failure} {text : String} : e.isDomain = true →
      steps[i]? = some step → text = s!"Step {i + 1} ({step.command}): {e.message}" →
      Verdict case steps results (i + 1) (some e)
        (.ok ⟨case.name, case.url, .completed, false, i + 1, steps.length, some text⟩)
        { results with failed := results.failed + 1, failures := results.failures ++ [text] }
  | aborted {k : Nat} {e : Failure} : e.isDomain = false →
      Verdict case steps results k (some e) (.error e) results

/-- A verdict is drawn from how far an execution went. -/
theorem conclude_verdict (case : Case) {steps : List Step} {s : σ} {k : Nat}
    {f : Option Failure} (hp : Progress h steps s k f) (results : Results) :
    Verdict case steps results k f
      (case.conclude steps.length results (executeAll h 1 steps s).1).1
      (case.conclude steps.length results (executeAll h 1 steps s).1).2 := by
  cases hp with
  | done hall =>
      rw [executeAll_done h steps 1 s hall]
      exact .passed
  | @upTo i e hall he =>
      obtain ⟨step, hstep, hx⟩ := executeAll_upTo h steps 1 i s hall he
      rw [hx, Nat.add_comm 1 i]
      cases hd : e.isDomain with
      | true =>
          simp only [conclude, hd, if_true]
          exact .failed hd hstep rfl
      | false =>
          simp only [conclude, hd]
          exact .aborted hd

theorem Verdict.unrecorded {steps : List Step} {results results' : Results} {k : Nat}
    {f : Option Failure} {outcome : Except Failure CaseReport} {e : Failure}
    (hv : Verdict case steps results k f outcome results') (he : outcome = .error e) :
    results' = results := by
  cases hv with
  | aborted _ => rfl
  | passed | failed _ _ _ => cases he

/-- What running a case does.  The handle is in state `s` and has seen `calls` before; `run` is
what becomes of it. -/
structure Course (catalog : Catalog) (load : Loader) (h : Handle σ) (case : Case) (s : σ)
    (calls : List Call) (results : Results) (run : CaseRun (σ × List Call)) : Prop where
  /-- Going to the page comes first, happens when the handle is elsewhere, and never again. -/
  approaches : ∃ rest, run.state.2 = calls ++ case.approach h s ++ rest ∧
    ∀ url, Call.navigate url ∉ rest
  /-- If the page cannot be reached, nothing else is called. -/
  lost : ∀ s₁ e, case.goTo h s = (.error e, s₁) →
    run.outcome = .error e ∧ run.state = (s₁, calls ++ case.approach h s)
  /-- Nor if its script cannot be loaded. -/
  unloaded : ∀ s₁ e, case.goTo h s = (.ok (), s₁) → load case.url = .error e →
    run.outcome = .error e ∧ run.state = (s₁, calls ++ case.approach h s)
  /-- Nor if the script cannot be resolved. -/
  unresolved : ∀ s₁ rows e, case.goTo h s = (.ok (), s₁) → load case.url = .ok rows →
    catalog.resolve rows = .error e →
    run.outcome = .error e ∧ run.state = (s₁, calls ++ case.approach h s)
  /-- Otherwise exactly the steps up to the first one that fails are executed, all of them if
  none does, and the verdict is drawn from how that ended. -/
  executed : ∀ s₁ rows steps, case.goTo h s = (.ok (), s₁) → load case.url = .ok rows →
    catalog.resolve rows = .ok steps →
    steps.length = rows.length ∧ ∃ k f, Progress h steps s₁ k f ∧
      run.state = (after h (steps.take k) s₁,
        calls ++ case.approach h s ++ callsOf h (steps.take k) s₁) ∧
      Verdict case steps results k f run.outcome run.results
  /-- A run that is aborted records nothing. -/
  unrecorded : ∀ e, run.outcome = .error e → run.results = results

theorem steps_of_unloaded (catalog : Catalog) {e : Failure} (hl : load case.url = .error e) :
    case.steps catalog load = .error e := by
  rw [steps, hl]
  rfl

theorem steps_of_loaded (catalog : Catalog) {rows : List Row}
    (hl : load case.url = .ok rows) :
    case.steps catalog load = catalog.resolve rows := by
  rw [steps, hl]
  rfl

/-- A run that resolves its script, with its calls. -/
theorem run_traced_of_resolved {s s₁ : σ} {steps : List Step} {k : Nat} {f : Option Failure}
    (hgo : case.goTo h s = (.ok (), s₁)) (hs : case.steps catalog load = .ok steps)
    (hp : Progress h steps s₁ k f) (calls : List Call) (results : Results) :
    case.run catalog load h.traced (s, calls) results =
      ⟨(case.run catalog load h s results).outcome,
        (after h (steps.take k) s₁,
          calls ++ case.approach h s ++ callsOf h (steps.take k) s₁),
        (case.run catalog load h s results).results⟩ := by
  have hgo' := goTo_traced h case s calls
  rw [hgo] at hgo'
  rw [run_of_resolved hgo' hs, run_of_resolved hgo hs, executeAll_traced hp]

/-- Keeping the calls of a handle changes nothing else about a run. -/
theorem run_traced (catalog : Catalog) (load : Loader) (h : Handle σ) (case : Case) (s : σ)
    (calls : List Call) (results : Results) : ∃ made,
    case.run catalog load h.traced (s, calls) results =
      ⟨(case.run catalog load h s results).outcome,
        ((case.run catalog load h s results).state, calls ++ made),
        (case.run catalog load h s results).results⟩ := by
  have hgo' := goTo_traced h case s calls
  rcases hgo : case.goTo h s with ⟨e | ⟨⟨⟩⟩, s₁⟩ <;> rw [hgo] at hgo'
  · exact ⟨case.approach h s, by rw [run_of_lost hgo', run_of_lost hgo]⟩
  cases hs : case.steps catalog load with
  | error e =>
      exact ⟨case.approach h s, by rw [run_of_unresolved hgo' hs, run_of_unresolved hgo hs]⟩
  | ok steps =>
      obtain ⟨k, f, hp⟩ := exists_progress h steps s₁
      refine ⟨case.approach h s ++ callsOf h (steps.take k) s₁, ?_⟩
      rw [run_traced_of_resolved hgo hs hp, run_of_resolved hgo hs, executeAll_state hp,
        List.append_assoc]

/-! ## Every run takes its course -/

theorem course_of_lost {s s₁ : σ} {e : Failure} (hgo : case.goTo h s = (.error e, s₁))
    (calls : List Call) (results : Results) :
    Course catalog load h case s calls results
      ⟨.error e, (s₁, calls ++ case.approach h s), results⟩ where
  approaches := ⟨[], (List.append_nil _).symm, fun _ => List.not_mem_nil⟩
  lost s₂ e₂ h₂ := by
    cases hgo.symm.trans h₂
    exact ⟨rfl, rfl⟩
  unloaded s₂ e₂ h₂ := by cases hgo.symm.trans h₂
  unresolved s₂ rows e₂ h₂ := by cases hgo.symm.trans h₂
  executed s₂ rows steps h₂ := by cases hgo.symm.trans h₂
  unrecorded _ _ := rfl

theorem course_of_unresolved {s s₁ : σ} {e : Failure} (hgo : case.goTo h s = (.ok (), s₁))
    (hs : case.steps catalog load = .error e) (calls : List Call) (results : Results) :
    Course catalog load h case s calls results
      ⟨.error e, (s₁, calls ++ case.approach h s), results⟩ where
  approaches := ⟨[], (List.append_nil _).symm, fun _ => List.not_mem_nil⟩
  lost s₂ e₂ h₂ := by cases hgo.symm.trans h₂
  unloaded s₂ e₂ h₂ hl := by
    cases hgo.symm.trans h₂
    cases (steps_of_unloaded catalog hl).symm.trans hs
    exact ⟨rfl, rfl⟩
  unresolved s₂ rows e₂ h₂ hl hr := by
    cases hgo.symm.trans h₂
    cases ((steps_of_loaded catalog hl).trans hr).symm.trans hs
    exact ⟨rfl, rfl⟩
  executed s₂ rows steps h₂ hl hr := by
    cases ((steps_of_loaded catalog hl).trans hr).symm.trans hs
  unrecorded _ _ := rfl

theorem course_of_progress {s s₁ : σ} {steps : List Step} {k : Nat} {f : Option Failure}
    {outcome : Except Failure CaseReport} {results results' : Results}
    (hgo : case.goTo h s = (.ok (), s₁)) (hs : case.steps catalog load = .ok steps)
    (hp : Progress h steps s₁ k f) (hv : Verdict case steps results k f outcome results')
    (calls : List Call) :
    Course catalog load h case s calls results
      ⟨outcome, (after h (steps.take k) s₁,
        calls ++ case.approach h s ++ callsOf h (steps.take k) s₁), results'⟩ where
  approaches := ⟨callsOf h (steps.take k) s₁, rfl, fun url =>
    navigate_not_mem_callsOf h url _ s₁⟩
  lost s₂ e₂ h₂ := by cases hgo.symm.trans h₂
  unloaded s₂ e₂ h₂ hl := by cases (steps_of_unloaded catalog hl).symm.trans hs
  unresolved s₂ rows e₂ h₂ hl hr := by
    cases ((steps_of_loaded catalog hl).trans hr).symm.trans hs
  executed s₂ rows steps₂ h₂ hl hr := by
    cases hgo.symm.trans h₂
    cases ((steps_of_loaded catalog hl).trans hr).symm.trans hs
    exact ⟨Catalog.resolve_length hr, k, f, hp, rfl, hv⟩
  unrecorded _ he := hv.unrecorded he

/-- Every run of a case takes its course. -/
theorem run_course (catalog : Catalog) (load : Loader) (h : Handle σ) (case : Case) (s : σ)
    (calls : List Call) (results : Results) :
    Course catalog load h case s calls results
      (case.run catalog load h.traced (s, calls) results) := by
  have hgo' := goTo_traced h case s calls
  rcases hgo : case.goTo h s with ⟨e | ⟨⟨⟩⟩, s₁⟩ <;> rw [hgo] at hgo'
  · -- the page cannot be reached
    rw [run_of_lost hgo' results]
    exact course_of_lost hgo calls results
  cases hs : case.steps catalog load with
  | error e =>
      rw [run_of_unresolved hgo' hs results]
      exact course_of_unresolved hgo hs calls results
  | ok steps =>
      obtain ⟨k, f, hp⟩ := exists_progress h steps s₁
      rw [run_traced_of_resolved hgo hs hp, run_of_resolved hgo hs]
      exact course_of_progress hgo hs hp (conclude_verdict case hp results) calls

/-- A case whose script is resolved comes to its end, if none of its steps is ever fatal. -/
theorem run_ok_of_not_fatal {s s₁ : σ} {steps : List Step}
    (hgo : case.goTo h s = (.ok (), s₁)) (hs : case.steps catalog load = .ok steps)
    (hsteps : ∀ step ∈ steps, ∀ t, isFatal (step.execute h t).1 = false) (results : Results) :
    ∃ report, (case.run catalog load h s results).outcome = .ok report := by
  obtain ⟨k, f, hp⟩ := exists_progress h steps s₁
  have hv := conclude_verdict case hp results
  rw [run_of_resolved hgo hs]
  generalize case.conclude steps.length results (executeAll h 1 steps s₁).1 = concluded at hv ⊢
  obtain ⟨outcome, results'⟩ := concluded
  cases hv with
  | passed => exact ⟨_, rfl⟩
  | failed _ _ _ => exact ⟨_, rfl⟩
  | @aborted _ e he =>
      cases hp with
      | @upTo i _ _ hat =>
          -- the step that ended the execution would have been fatal
          obtain ⟨step, hstep, hexec⟩ := Option.map_eq_some_iff.mp hat
          have hno := hsteps step (List.mem_of_getElem? hstep) (after h (steps.take i) s₁)
          rw [hexec, isFatal, he] at hno
          cases hno

/-! ## Cases one after the other -/

/-- What becomes of cases that are run one after the other. -/
structure Series (σ : Type) where
  outcomes : List (Except Failure CaseReport)
  state : σ
  results : Results

/-- Runs cases one after the other on one handle, with one record of results. -/
def runAll (catalog : Catalog) (load : Loader) (h : Handle σ) :
    List Case → σ → Results → Series σ
  | [], s, results => ⟨[], s, results⟩
  | case :: cases, s, results =>
    let run := case.run catalog load h s results
    let rest := runAll catalog load h cases run.state run.results
    { rest with outcomes := run.outcome :: rest.outcomes }

/-- The reports of the cases that were not aborted. -/
def Series.reports (series : Series σ) : List CaseReport :=
  series.outcomes.filterMap Except.toOption

/-- Every case takes its course from where the case before it ended. -/
inductive Courses (catalog : Catalog) (load : Loader) (h : Handle σ) :
    List Case → σ → List Call → Results → Series (σ × List Call) → Prop
  | nil {s : σ} {calls : List Call} {results : Results} :
      Courses catalog load h [] s calls results ⟨[], (s, calls), results⟩
  | cons {case : Case} {cases : List Case} {s : σ} {calls : List Call} {results : Results}
      {run : CaseRun (σ × List Call)} {rest : Series (σ × List Call)} :
      Course catalog load h case s calls results run →
      Courses catalog load h cases run.state.1 run.state.2 run.results rest →
      Courses catalog load h (case :: cases) s calls results
        { rest with outcomes := run.outcome :: rest.outcomes }

theorem runAll_length (catalog : Catalog) (load : Loader) (h : Handle σ) :
    ∀ (cases : List Case) (s : σ) (results : Results),
      (runAll catalog load h cases s results).outcomes.length = cases.length
  | [], _, _ => rfl
  | _ :: cases, _, _ => congrArg (· + 1) (runAll_length catalog load h cases _ _)

theorem runAll_courses (catalog : Catalog) (load : Loader) (h : Handle σ) :
    ∀ (cases : List Case) (s : σ) (calls : List Call) (results : Results),
      Courses catalog load h cases s calls results
        (runAll catalog load h.traced cases (s, calls) results)
  | [], _, _, _ => .nil
  | case :: cases, s, calls, results =>
      .cons (run_course catalog load h case s calls results)
        (runAll_courses catalog load h cases _ _ _)

/-- A run is aborted before its execution and records nothing, or its verdict is drawn from how
far its execution went. -/
theorem run_verdict (catalog : Catalog) (load : Loader) (h : Handle σ) (case : Case) (s : σ)
    (results : Results) :
    (∃ e, (case.run catalog load h s results).outcome = .error e ∧
        (case.run catalog load h s results).results = results) ∨
      ∃ steps k f, Verdict case steps results k f (case.run catalog load h s results).outcome
        (case.run catalog load h s results).results := by
  rcases hgo : case.goTo h s with ⟨e | ⟨⟨⟩⟩, s₁⟩
  · rw [run_of_lost hgo results]
    exact Or.inl ⟨e, rfl, rfl⟩
  cases hs : case.steps catalog load with
  | error e =>
      rw [run_of_unresolved hgo hs results]
      exact Or.inl ⟨e, rfl, rfl⟩
  | ok steps =>
      rw [run_of_resolved hgo hs results]
      obtain ⟨k, f, hp⟩ := exists_progress h steps s₁
      exact Or.inr ⟨steps, k, f, conclude_verdict case hp results⟩

/-- A run records what it reports. -/
theorem run_results (catalog : Catalog) (load : Loader) (h : Handle σ) (case : Case) (s : σ)
    (results : Results) :
    (case.run catalog load h s results).results =
      results.tally (case.run catalog load h s results).outcome.toOption.toList := by
  rcases run_verdict catalog load h case s results with ⟨e, ho, hr⟩ | ⟨steps, k, f, hv⟩
  · rw [hr, ho]
    exact results.tally_nil.symm
  · generalize case.run catalog load h s results = run at hv ⊢
    obtain ⟨outcome, state, results'⟩ := run
    cases hv with
    | passed => simp [Results.tally, Except.toOption]
    | failed _ _ _ => simp [Results.tally, Except.toOption]
    | aborted _ => exact (Results.tally_nil _).symm

theorem run_failure {s : σ} {results : Results} {report : CaseReport}
    (hrun : (case.run catalog load h s results).outcome = .ok report) :
    report.failure.isSome = !report.passed := by
  rcases run_verdict catalog load h case s results with ⟨e, ho, -⟩ | ⟨steps, k, f, hv⟩
  · cases ho.symm.trans hrun
  · rw [hrun] at hv
    generalize (case.run catalog load h s results).results = results' at hv
    cases hv with
    | passed => rfl
    | failed _ _ _ => rfl

theorem runAll_results (catalog : Catalog) (load : Loader) (h : Handle σ) :
    ∀ (cases : List Case) (s : σ) (results : Results),
      (runAll catalog load h cases s results).results =
        results.tally (runAll catalog load h cases s results).reports
  | [], _, results => results.tally_nil.symm
  | case :: cases, s, results => by
      simp only [runAll, Series.reports]
      rw [runAll_results catalog load h cases, run_results, ← Results.tally_append]
      cases (case.run catalog load h s results).outcome <;> rfl

theorem runAll_traced (catalog : Catalog) (load : Loader) (h : Handle σ) :
    ∀ (cases : List Case) (s : σ) (calls : List Call) (results : Results), ∃ made,
      runAll catalog load h.traced cases (s, calls) results =
        ⟨(runAll catalog load h cases s results).outcomes,
          ((runAll catalog load h cases s results).state, calls ++ made),
          (runAll catalog load h cases s results).results⟩
  | [], _, _, _ => ⟨[], by simp [runAll]⟩
  | case :: cases, s, calls, results => by
      obtain ⟨first, hfirst⟩ := run_traced catalog load h case s calls results
      obtain ⟨others, hothers⟩ := runAll_traced catalog load h cases
        (case.run catalog load h s results).state (calls ++ first)
        (case.run catalog load h s results).results
      refine ⟨first ++ others, ?_⟩
      simp only [runAll, hfirst, hothers, List.append_assoc]

/-- Cases that are run one after the other on one handle take their courses one after the
other, as the calls that the handle sees show.  Together they record exactly their reports: each
that passed as one success, each that failed as one failure with its text. -/
theorem runAll_records_reports (catalog : Catalog) (load : Loader) (h : Handle σ)
    (cases : List Case) (s : σ) (results : Results) :
    let series := runAll catalog load h cases s results
    let seen := runAll catalog load h.traced cases (s, []) results
    Courses catalog load h cases s [] results seen ∧
      seen.outcomes = series.outcomes ∧ seen.state.1 = series.state ∧
      seen.results = series.results ∧ series.outcomes.length = cases.length ∧
      series.results.passed = results.passed + series.reports.countP (·.passed) ∧
      series.results.failed = results.failed + series.reports.countP (!·.passed) ∧
      series.results.failures = results.failures ++ series.reports.filterMap (·.failure) ∧
      series.results.total = results.total + series.reports.length := by
  intro series seen
  obtain ⟨made, hseen⟩ := runAll_traced catalog load h cases s [] results
  have hr : series.results = results.tally series.reports :=
    runAll_results catalog load h cases s results
  refine ⟨runAll_courses catalog load h cases s [] results, congrArg Series.outcomes hseen,
    congrArg (·.state.1) hseen, congrArg Series.results hseen,
    runAll_length catalog load h cases s results, ?_, ?_, ?_, ?_⟩
  · rw [hr, Results.tally]
  · rw [hr, Results.tally]
  · rw [hr, Results.tally]
  · rw [hr, Results.total_tally]

end Case

end TableTest
