/-
`TableTest.Proofs.FailureRecord` — what becomes of a failure that a handle reports

The failures that a handle reports during a run are those of the calls that the run makes on it,
each in the state that the calls before it leave.  Once the page of the case is reached, only the
last step of a run meets any: a step that succeeds has met none.  A failure of the page that it
meets is recorded, whatever the sink, unless the step goes on to wait and the wait is fatal.
-/
import TableTest.Handle.Prepared
import TableTest.Proofs.CaseRun
import TableTest.Proofs.Waiting

namespace TableTest

variable {σ ρ : Type}

/-! ## What a handle reports -/

/-- The failure that a result is, if it is one. -/
def failure? {α : Type} : Except Failure α → Option Failure
  | .ok _ => none
  | .error e => some e

namespace Handle

/-- The failure that a call comes to, if it fails. -/
def failureOf? (h : Handle σ) (s : σ) : Call → Option Failure
  | .invoke method args => failure? (h.invoke method args s).1
  | .navigate url => failure? (h.navigate url s).1
  | .await timeout => failure? (h.await timeout s).1

/-- The state that a call leaves. -/
def after (h : Handle σ) (s : σ) : Call → σ
  | .invoke method args => (h.invoke method args s).2
  | .navigate url => (h.navigate url s).2
  | .await timeout => (h.await timeout s).2

/-- The failures that a handle reports as calls are made on it one after the other. -/
def failuresOf (h : Handle σ) : List Call → σ → List Failure
  | [], _ => []
  | call :: calls, s => (h.failureOf? s call).toList ++ failuresOf h calls (h.after s call)

theorem failuresOf_append (h : Handle σ) (rest : List Call) : ∀ (calls : List Call) (s : σ),
    h.failuresOf (calls ++ rest) s =
      h.failuresOf calls s ++ h.failuresOf rest (calls.foldl h.after s)
  | [], _ => rfl
  | call :: calls, s => by
      rw [List.cons_append, failuresOf, failuresOf_append h rest calls, failuresOf,
        List.foldl_cons, List.append_assoc]

end Handle

/-! ## What a step meets -/

namespace Step

/-- The failures that a step can meet, with what it comes to then. -/
inductive Meets (step : Step) : List Failure → Except Failure Value → Prop
  /-- It meets none, and comes to a value or to the complaint of a check. -/
  | none {result : Except Failure Value} : isFatal result = false → Meets step [] result
  /-- It meets one, which is told as a failure of the same sort. -/
  | one {e e' : Failure} : e'.isDomain = e.isDomain → Meets step [e] (.error e')
  /-- Its invocation fails as the page does, and the wait after that fails too. -/
  | two {timeout : String} {d e : Failure} : step.action = .invokeAndWait timeout →
      d.isDomain = true → Meets step [d, e] (.error (.ofCall waitMethod [timeout] e))

variable {h : Handle σ} {step : Step} {s : σ}

theorem call_of_invoke {result : Except Failure Value} {t : σ}
    (hinvoke : h.invoke step.method step.args s = (result, t)) :
    step.call h s = (result.mapError (.ofCall step.method step.args), t) := by
  rw [call, hinvoke]

theorem meets_mapError (step : Step) (method : String) (args : List String)
    (result : Except Failure Value) :
    Meets step (failure? result).toList (result.mapError (.ofCall method args)) := by
  cases result with
  | error e => exact .one (Failure.isDomain_ofCall method args e)
  | ok v => exact .none rfl

/-- A check that has a value to look at meets nothing more. -/
theorem Meets.check {failures : List Failure} {result : Except Failure Value}
    (hmeets : Meets step failures result) (x : Expectation) (expected : String) :
    Meets step failures (result.bind (x.check · expected)) := by
  cases hmeets with
  | none hresult => exact .none (isFatal_bind hresult fun v => isFatal_check v expected x)
  | one he => exact .one he
  | two ha hd => exact .two ha hd

theorem meets_waitThen {timeout : String} {result : Except Failure Value}
    (ha : step.action = .invokeAndWait timeout) (hresult : isFatal result = false) :
    Meets step ((failure? result).toList ++ (failure? (h.await timeout s).1).toList)
      (waitThen h timeout result s).1 := by
  cases hw : (h.await timeout s).1 with
  | ok =>
      rw [waitThen_of_ok hw]
      cases result with
      | error d => exact .one rfl
      | ok v => exact .none rfl
  | error e =>
      rw [waitThen_of_error hw]
      cases result with
      | error d => exact .two ha (by simpa [isFatal] using hresult)
      | ok v => exact .one (Failure.isDomain_ofCall _ _ e)

/-- Whatever a handle answers, a step meets failures in one of these ways. -/
theorem meets (h : Handle σ) (step : Step) (s : σ) :
    Meets step (h.failuresOf (step.calls h s) s) (step.execute h s).1 := by
  rcases hi : h.invoke step.method step.args s with ⟨result, t⟩
  have hcall := call_of_invoke hi
  have hinvoked := meets_mapError step step.method step.args result
  have hreported : h.failuresOf (step.calls h s) s =
      (failure? result).toList ++ h.failuresOf (step.callsAfter result) t := by
    simp [calls, hi, Handle.failuresOf, Handle.failureOf?, Handle.after]
  rw [hreported]
  unfold callsAfter execute
  rw [hcall]
  cases ha : step.action with
  | invoke => simpa [Handle.failuresOf] using hinvoked
  | compare expected x => simpa [Handle.failuresOf] using hinvoked.check x expected
  | invokeAndWait timeout =>
      cases hfatal : isFatal result with
      | true =>
          cases result with
          | ok v => cases hfatal
          | error e =>
              have he : e.isDomain = false := by simpa [isFatal] using hfatal
              simpa [he, Handle.failuresOf] using hinvoked
      | false =>
          have hwaited := meets_waitThen (h := h) (s := t) ha hfatal
          cases result with
          | ok v => simpa [Handle.failuresOf, Handle.failureOf?] using hwaited
          | error e =>
              have he : e.isDomain = true := by simpa [isFatal] using hfatal
              simpa [he, Failure.ofCall_of_isDomain he, Handle.failuresOf, Handle.failureOf?]
                using hwaited

theorem foldl_calls (h : Handle σ) (step : Step) (s : σ) :
    (step.calls h s).foldl h.after s = (step.execute h s).2 := by
  unfold calls callsAfter execute
  cases step.action with
  | invoke | compare _ _ => rfl
  | invokeAndWait timeout =>
      rcases hi : h.invoke step.method step.args s with ⟨e | v, t⟩
      · cases he : e.isDomain <;>
          simp [call, hi, isFatal, he, Handle.after, waitThen_state]
      · simp [call, hi, isFatal, Handle.after, waitThen_state]

theorem failuresOf_of_ok {v : Value} (hok : (step.execute h s).1 = .ok v) :
    h.failuresOf (step.calls h s) s = [] := by
  have hmeets := meets h step s
  rw [hok] at hmeets
  generalize h.failuresOf (step.calls h s) s = failures at hmeets
  cases hmeets with
  | none _ => rfl

end Step

/-! ## What an execution meets -/

namespace Case

open Step

variable {h : Handle σ}

theorem failuresOf_callsOf_cons {step : Step} {s : σ} {v : Value}
    (hok : (step.execute h s).1 = .ok v) (steps : List Step) :
    h.failuresOf (callsOf h (step :: steps) s) s =
      h.failuresOf (callsOf h steps (step.execute h s).2) (step.execute h s).2 := by
  rw [callsOf, Handle.failuresOf_append, failuresOf_of_ok hok, foldl_calls, List.nil_append]

theorem failuresOf_done : ∀ (steps : List Step) (s : σ),
    (∀ i < steps.length, ∃ v, resultAt h steps s i = some (.ok v)) →
      h.failuresOf (callsOf h steps s) s = []
  | [], _, _ => rfl
  | step :: steps, s, hall => by
      obtain ⟨v, hv⟩ := hall 0 (Nat.zero_lt_succ _)
      rw [resultAt_zero, Option.some.injEq] at hv
      rw [failuresOf_callsOf_cons hv]
      exact failuresOf_done steps _ fun i hi => hall (i + 1) (Nat.succ_lt_succ hi)

/-- The failures that an execution meets are those of its last step. -/
theorem failuresOf_upTo {e : Failure} : ∀ (steps : List Step) (i : Nat) (s : σ),
    (∀ j < i, ∃ v, resultAt h steps s j = some (.ok v)) →
    resultAt h steps s i = some (.error e) →
      ∃ step ∈ steps, Meets step (h.failuresOf (callsOf h (steps.take (i + 1)) s) s) (.error e)
  | [], _, _, _, he => by simp [resultAt] at he
  | step :: steps, 0, s, _, he => by
      rw [resultAt_zero, Option.some.injEq] at he
      refine ⟨step, List.mem_cons_self, ?_⟩
      rw [← he]
      simpa [callsOf] using meets h step s
  | step :: steps, i + 1, s, hall, he => by
      obtain ⟨v, hv⟩ := hall 0 (Nat.zero_lt_succ _)
      rw [resultAt_zero, Option.some.injEq] at hv
      obtain ⟨last, hin, hlast⟩ := failuresOf_upTo steps i (step.execute h s).2
        (fun j hj => hall (j + 1) (Nat.succ_lt_succ hj)) he
      refine ⟨last, List.mem_cons_of_mem _ hin, ?_⟩
      rw [List.take_succ_cons, failuresOf_callsOf_cons hv]
      exact hlast

/-- Going to the page of a case reports a failure only if the page is not reached. -/
theorem failuresOf_approach (h : Handle σ) (case : Case) (s : σ) :
    h.failuresOf (case.approach h s) s = (failure? (case.goTo h s).1).toList := by
  unfold approach goTo
  split
  · rfl
  · exact List.append_nil _

theorem foldl_approach (h : Handle σ) (case : Case) (s : σ) :
    (case.approach h s).foldl h.after s = (case.goTo h s).2 := by
  unfold approach goTo
  split <;> rfl

end Case

/-! ## Sinks -/

/-- Where outcomes of cases are recorded. -/
structure Sink (ρ : Type) where
  success : ρ → ρ
  failure : String → ρ → ρ

/-- The counts of a suite. -/
def Results.sink : Sink Results := ⟨Results.success, Results.failure⟩

/-- Records an outcome: a report is a success or a failure, an aborted case is neither. -/
def Sink.record (sink : Sink ρ) (r : ρ) : Except Failure CaseReport → ρ
  | .ok report => report.failure.elim (sink.success r) (sink.failure · r)
  | .error _ => r

/-- What became of a run that records in a sink. -/
structure SinkRun (σ ρ : Type) where
  outcome : Except Failure CaseReport
  state : σ
  sink : ρ

/-- A run that has recorded in counts. -/
def CaseRun.inSink (run : CaseRun σ) : SinkRun σ Results :=
  ⟨run.outcome, run.state, run.results⟩

namespace SinkRun

/-- The run ends in a report of a failure, which is all that it records. -/
def Records (sink : Sink ρ) (r : ρ) (run : SinkRun σ ρ) : Prop :=
  ∃ report reason, run.outcome = .ok report ∧ report.passed = false ∧
    report.failure = some reason ∧ run.sink = sink.failure reason r

/-- A step that waits has failed with `d`, and the run is aborted by the wait after that, which is
fatal; it records nothing. -/
def Overrules (steps : List Step) (d : Failure) (reported : List Failure) (r : ρ)
    (run : SinkRun σ ρ) : Prop :=
  ∃ step ∈ steps, ∃ timeout f, step.action = .invokeAndWait timeout ∧ reported = [d, f] ∧
    f.isDomain = false ∧ run.outcome = .error (.ofCall Step.waitMethod [timeout] f) ∧ run.sink = r

end SinkRun

namespace Case

open Step

/-- The report and the record of an execution, in any sink. -/
def concludeIn (sink : Sink ρ) (case : Case) (total : Nat) (r : ρ) :
    Ending → Except Failure CaseReport × ρ
  | .allPassed => (.ok (case.passed total), sink.success r)
  | .stopped k step e =>
    if e.isDomain then
      let reason := failureText k step e
      (.ok (case.failed k total reason), sink.failure reason r)
    else (.error e, r)

/-- Runs a case and records its outcome in any sink. -/
def runIn (sink : Sink ρ) (catalog : Catalog) (load : Loader) (h : Handle σ) (case : Case) (s : σ)
    (r : ρ) : SinkRun σ ρ :=
  match case.goTo h s with
  | (.error e, s) => ⟨.error e, s, r⟩
  | (.ok (), s) =>
    match case.steps catalog load with
    | .error e => ⟨.error e, s, r⟩
    | .ok steps =>
      let (ending, s) := executeAll h 1 steps s
      let (outcome, r) := case.concludeIn sink steps.length r ending
      ⟨outcome, s, r⟩

variable {catalog : Catalog} {load : Loader} {h : Handle σ} {case : Case}

theorem runIn_of_lost {s s₁ : σ} {e : Failure} (hgo : case.goTo h s = (.error e, s₁))
    (sink : Sink ρ) (r : ρ) : case.runIn sink catalog load h s r = ⟨.error e, s₁, r⟩ := by
  simp only [runIn, hgo]

theorem runIn_of_unresolved {s s₁ : σ} {e : Failure} (hgo : case.goTo h s = (.ok (), s₁))
    (hs : case.steps catalog load = .error e) (sink : Sink ρ) (r : ρ) :
    case.runIn sink catalog load h s r = ⟨.error e, s₁, r⟩ := by
  simp only [runIn, hgo, hs]

theorem concludeIn_results (case : Case) (total : Nat) (results : Results) (ending : Ending) :
    case.concludeIn Results.sink total results ending = case.conclude total results ending := by
  cases ending <;> rfl

theorem concludeIn_eq (sink : Sink ρ) (case : Case) (total : Nat) (r : ρ) (results : Results)
    (ending : Ending) :
    case.concludeIn sink total r ending =
      ((case.conclude total results ending).1,
        sink.record r (case.conclude total results ending).1) := by
  cases ending with
  | allPassed => rfl
  | stopped k step e =>
      cases he : e.isDomain <;> simp [concludeIn, conclude, he, Sink.record, failed]

/-- Recorded in counts, it is the run of the case. -/
theorem runIn_results (s : σ) (results : Results) :
    case.runIn Results.sink catalog load h s results =
      (case.run catalog load h s results).inSink := by
  rcases hgo : case.goTo h s with ⟨e | ⟨⟨⟩⟩, s₁⟩
  · rw [runIn_of_lost hgo, run_of_lost hgo, CaseRun.inSink]
  cases hs : case.steps catalog load with
  | error e => rw [runIn_of_unresolved hgo hs, run_of_unresolved hgo hs, CaseRun.inSink]
  | ok steps =>
      simp only [runIn, hgo, hs, concludeIn_results, run_of_resolved hgo hs, CaseRun.inSink]

/-- A run that resolves its script, with its calls: its verdict is what it records. -/
theorem runIn_of_resolved {s s₁ : σ} {steps : List Step} {k : Nat} {f : Option Failure}
    (hgo : case.goTo h s = (.ok (), s₁)) (hs : case.steps catalog load = .ok steps)
    (hp : Progress h steps s₁ k f) (sink : Sink ρ) (r : ρ) :
    ∃ outcome results, Verdict case steps {} k f outcome results ∧
      case.runIn sink catalog load h s r =
        ⟨outcome, after h (steps.take k) s₁, sink.record r outcome⟩ ∧
      case.runIn sink catalog load h.traced (s, []) r =
        ⟨outcome, (after h (steps.take k) s₁, case.approach h s ++ callsOf h (steps.take k) s₁),
          sink.record r outcome⟩ := by
  have hgo' := goTo_traced h case s []
  rw [hgo] at hgo'
  refine ⟨_, _, conclude_verdict case hp {}, ?_, ?_⟩
  · simp only [runIn, hgo, hs, concludeIn_eq sink case _ r {}, executeAll_state hp]
  · simp only [runIn, hgo', hs, concludeIn_eq sink case _ r {}, executeAll_traced hp,
      List.nil_append]

/-! ## What a run meets -/

theorem steps_fails {e : Failure} (hs : case.steps catalog load = .error e) :
    load case.url = .error e ∨ e.isDomain = false := by
  rcases Except.bind_error_iff.mp hs with hl | ⟨rows, -, hr⟩
  · exact Or.inl hl
  · obtain ⟨row, -, rfl⟩ := Catalog.resolve_fails hr
    exact Or.inr rfl

section

variable {steps : List Step} {s : σ} {k : Nat} {outcome : Except Failure CaseReport}
  {results results' : Results}

theorem Verdict.records {e : Failure}
    (hv : Verdict case steps results k (some e) outcome results') (he : e.isDomain = true)
    (sink : Sink ρ) (r : ρ) (state : σ) :
    (⟨outcome, state, sink.record r outcome⟩ : SinkRun σ ρ).Records sink r := by
  cases hv with
  | failed _ _ _ => exact ⟨_, _, rfl, rfl, rfl, rfl⟩
  | aborted hd => cases hd.symm.trans he

theorem Verdict.aborts {e : Failure}
    (hv : Verdict case steps results k (some e) outcome results') (he : e.isDomain = false) :
    outcome = .error e := by
  cases hv with
  | failed hd _ _ => cases hd.symm.trans he
  | aborted _ => rfl

theorem Verdict.not_domain {f : Option Failure} {e : Failure}
    (hv : Verdict case steps results k f outcome results') (he : outcome = .error e) :
    e.isDomain = false := by
  cases hv with
  | passed | failed _ _ _ => cases he
  | aborted hd =>
      cases he
      exact hd

/-- The verdict on an execution settles every failure of the page that it has met. -/
theorem Verdict.settles {f : Option Failure} (hp : Progress h steps s k f)
    (hv : Verdict case steps results k f outcome results') (sink : Sink ρ) (r : ρ) (state : σ)
    {d : Failure} (hmet : d ∈ h.failuresOf (callsOf h (steps.take k) s) s)
    (hd : d.isDomain = true) :
    (⟨outcome, state, sink.record r outcome⟩ : SinkRun σ ρ).Records sink r ∨
      (⟨outcome, state, sink.record r outcome⟩ : SinkRun σ ρ).Overrules steps d
        (h.failuresOf (callsOf h (steps.take k) s) s) r := by
  cases hp with
  | done hall =>
      rw [List.take_length, failuresOf_done steps s hall] at hmet
      cases hmet
  | upTo hall he =>
      obtain ⟨step, hin, hmeets⟩ := failuresOf_upTo steps _ s hall he
      generalize h.failuresOf (callsOf h (steps.take _) s) s = met at hmeets hmet ⊢
      cases hmeets with
      | none _ => cases hmet
      | one hsame =>
          obtain rfl := List.mem_singleton.mp hmet
          exact Or.inl (hv.records (hsame.trans hd) sink r state)
      | @two timeout d' f haction _ =>
          cases hf : f.isDomain with
          | true => exact Or.inl (hv.records (by rw [Failure.isDomain_ofCall, hf]) sink r state)
          | false =>
              -- the failure that is one of the page is that of the invocation
              have hne : d ≠ f := by
                rintro rfl
                cases hd.symm.trans hf
              obtain rfl : d = d' := by simpa [hne] using hmet
              obtain rfl := hv.aborts (by rw [Failure.isDomain_ofCall, hf])
              exact Or.inr ⟨step, hin, timeout, f, haction, rfl, hf, rfl, rfl⟩

end

/-- The run of a case that records in any sink.  An aborted run records nothing, and what aborts it
is no failure of the page, unless it comes of going to the page or of loading the script.  Whenever
the handle reports a failure of the page, other than in going there, the run ends in a report and
records one failure; only if it is the failure of a step that waits, and the wait after it is fatal,
does that abort the run instead. -/
theorem domain_failure_recorded (sink : Sink ρ) (catalog : Catalog) (load : Loader)
    (h : Handle σ) (case : Case) (s : σ) (r : ρ) :
    let run := case.runIn sink catalog load h s r
    let seen := case.runIn sink catalog load h.traced (s, []) r
    let reported := h.failuresOf seen.state.2 s
    (∀ results, case.runIn Results.sink catalog load h s results =
      (case.run catalog load h s results).inSink) ∧
    (seen.outcome = run.outcome ∧ seen.state.1 = run.state ∧ seen.sink = run.sink) ∧
    (∀ e, run.outcome = .error e → run.sink = r ∧
      (e.isDomain = true → (case.goTo h s).1 = .error e ∨ load case.url = .error e)) ∧
    ∀ d ∈ reported, d.isDomain = true → (case.goTo h s).1 = .error d ∨
      run.Records sink r ∨
      ∃ steps, case.steps catalog load = .ok steps ∧ run.Overrules steps d reported r := by
  intro run seen reported
  refine ⟨runIn_results s, ?_⟩
  have hgo' := goTo_traced h case s []
  have happroach := failuresOf_approach h case s
  rcases hgo : case.goTo h s with ⟨e | ⟨⟨⟩⟩, s₁⟩ <;> rw [hgo] at hgo' happroach
  · -- the page cannot be reached
    have hrun : run = ⟨.error e, s₁, r⟩ := runIn_of_lost hgo sink r
    have hseen : seen = ⟨.error e, (s₁, [] ++ case.approach h s), r⟩ :=
      runIn_of_lost hgo' sink r
    have hreported : reported = [e] := by
      simp only [reported, hseen, List.nil_append, happroach]
      rfl
    rw [hrun, hseen, hreported]
    refine ⟨⟨rfl, rfl, rfl⟩, ?_, ?_⟩
    · rintro e' he'
      cases he'
      exact ⟨rfl, fun _ => Or.inl rfl⟩
    · intro d hd _
      obtain rfl := List.mem_singleton.mp hd
      exact Or.inl rfl
  cases hs : case.steps catalog load with
  | error e =>
      have hrun : run = ⟨.error e, s₁, r⟩ := runIn_of_unresolved hgo hs sink r
      have hseen : seen = ⟨.error e, (s₁, [] ++ case.approach h s), r⟩ :=
        runIn_of_unresolved hgo' hs sink r
      have hreported : reported = [] := by
        simp only [reported, hseen, List.nil_append, happroach]
        rfl
      rw [hrun, hseen, hreported]
      refine ⟨⟨rfl, rfl, rfl⟩, ?_, fun d hd => absurd hd List.not_mem_nil⟩
      rintro e' he'
      cases he'
      refine ⟨rfl, fun he => Or.inr ?_⟩
      rcases steps_fails hs with hl | hno
      · exact hl
      · cases hno.symm.trans he
  | ok steps =>
      obtain ⟨k, f, hp⟩ := exists_progress h steps s₁
      obtain ⟨outcome, results, hv, hrun, hseen⟩ :
          ∃ outcome results, Verdict case steps {} k f outcome results ∧ run = _ ∧ seen = _ :=
        runIn_of_resolved hgo hs hp sink r
      have hreported : reported = h.failuresOf (callsOf h (steps.take k) s₁) s₁ := by
        have hthere := foldl_approach h case s
        rw [hgo] at hthere
        simp only [reported, hseen, Handle.failuresOf_append, happroach, hthere]
        rfl
      rw [hrun, hseen, hreported]
      refine ⟨⟨rfl, rfl, rfl⟩, ?_, fun d hmet hd => Or.inr ?_⟩
      · rintro e rfl
        refine ⟨rfl, fun he => ?_⟩
        cases (hv.not_domain rfl).symm.trans he
      · rcases hv.settles hp sink r _ hmet hd with hrecords | hoverrules
        · exact Or.inl hrecords
        · exact Or.inr ⟨steps, rfl, hoverrules⟩

/-- A click on what is not there, as the last of two steps, on a page that gets ready. -/
theorem domain_failure_recorded_click :
    let entry : Entry := ⟨"clickAndWait", ⟨"click", 1⟩, .andWait "30000"⟩
    let catalog : Catalog := ⟨⟨[("clickAndWait", entry)]⟩⟩
    let load : Loader := fun _ => .ok [⟨"clickAndWait", "menu", ""⟩, ⟨"clickAndWait", "go", ""⟩]
    let case : Case := ⟨"menu", "/menu"⟩
    let p : Prepared := { answers := [("click", [.ok .void, .error (.elementNotFound "go")])] }
    (case.runIn Results.sink catalog load Prepared.handle p {}).Records Results.sink {} := by
  intro entry catalog load case p
  let seen := case.runIn Results.sink catalog load Prepared.handle.traced (p, []) {}
  have hreported : Prepared.handle.failuresOf seen.state.2 p = [.elementNotFound "go"] := by
    decide +kernel
  obtain ⟨-, -, -, hsettled⟩ :=
    domain_failure_recorded Results.sink catalog load Prepared.handle case p {}
  rcases hsettled (.elementNotFound "go") (by rw [hreported]; simp) rfl with
    hgo | hrecords | ⟨steps, -, step, -, timeout, f, -, htwo, -⟩
  · have hthere : (case.goTo Prepared.handle p).1 = .ok () := by decide +kernel
    cases hthere.symm.trans hgo
  · exact hrecords
  · cases hreported.symm.trans htwo

/-- A wait that is fatal after a click on what is not there, a navigation that fails as the page
does, and a script whose loading does: a failure of the page is reported, by the handle or by the
loader, and the run is aborted and records nothing. -/
theorem domain_failure_unrecorded :
    let case : Case := ⟨"menu", "/menu"⟩
    let load : Loader := fun _ => .ok [⟨"clickAndWait", "go", ""⟩]
    let lost : Loader := fun _ => .error (.commandFailed "load" "refused")
    let ran (load : Loader) (p : Prepared) :=
      (Catalog.build {} [⟨"click", 1⟩]).map fun catalog =>
        let seen := case.run catalog load Prepared.handle.traced (p, []) {}
        (Prepared.handle.failuresOf seen.state.2 p, seen.outcome, seen.results)
    ran load
        { location := some "/menu"
          answers := [("click", [.error (.elementNotFound "go")]),
            ("wait:", [.error (.internal "driver gone")])] } =
        .ok ([.elementNotFound "go", .internal "driver gone"],
          .error (.fatalInvocation "waitForPageToLoad" ["30000"] "Internal error: driver gone"),
          {}) ∧
      ran load { answers := [("navigate:", [.error (.commandFailed "navigate" "refused")])] } =
        .ok ([.commandFailed "navigate" "refused"],
          .error (.commandFailed "navigate" "refused"), {}) ∧
      ran lost { location := some "/menu" } =
        .ok ([], .error (.commandFailed "load" "refused"), {}) := by
  decide +kernel

end Case

end TableTest
