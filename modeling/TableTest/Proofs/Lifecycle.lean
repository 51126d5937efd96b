/-
`TableTest.Proofs.Lifecycle` — only the methods of the life cycle are fatal in the browser

A step is fatal if the browser refuses its invocation as fatal, and the browser does so exactly for
the methods of its own life cycle: it reads every other method, with the arguments that the catalog
gives it, as a query or an action, and those fail only as the page does.  The default settings
reserve the whole life cycle.  Under them no step is fatal, so a case that is aborted has been
aborted before its first step: its page was not found, or its script names an unknown command.
-/
import TableTest.Proofs.BrowserCatalog
import TableTest.Proofs.Orderly
import TableTest.Proofs.Scheduling
import TableTest.Proofs.SuiteAgreement

namespace TableTest

namespace Session

/-! ## The methods of the browser, one by one -/

theorem name_not_mem_lifecycle :
    ∀ c ∈ accessors ++ deeds, c.name ∉ lifecycle.map (·.name) := by
  decide +kernel

/-! What the settings reserve unless they are told otherwise. -/

theorem kindOf_reserved :
    ∀ name ∈ ({} : CatalogSettings).reserved, Naming.kindOf name = .action := by
  decide +kernel

theorem lifecycle_reserved : ∀ c ∈ lifecycle, c.name ∈ ({} : CatalogSettings).reserved := by
  decide +kernel

theorem isFatal_invoke_of_answered (site : Site) (s : Session) {c : Capability}
    (hc : c ∈ accessors ∨ c ∈ deeds) (target value : String) :
    isFatal (invoke site c.name (c.bind target value) s).1 = false := by
  refine isFatal_invoke_of_known site s ?_
  rcases hc with hc | hc
  · obtain ⟨q, hq⟩ := ofCall?_accessor c hc target value
    rw [hq]
    rfl
  · obtain ⟨a, ha⟩ := ofCall?_deed c hc target value
    rw [ha]
    rfl

/-! ## Steps -/

variable {settings : CatalogSettings} {catalog : Catalog} {rows : List Row} {steps : List Step}

/-- A step of a script is fatal exactly if its method is one of the life cycle. -/
theorem execute_of_resolve (hcatalog : Session.catalog settings = .ok catalog)
    (hresolve : catalog.resolve rows = .ok steps) {step : Step} (hstep : step ∈ steps)
    (site : Site) (s : Session) :
    (step.method ∈ lifecycle.map (·.name) →
      (step.execute (handle site) s).1 =
        .error (.fatalInvocation step.method step.args "not supported by the simulated browser")) ∧
    (step.method ∉ lifecycle.map (·.name) → isFatal (step.execute (handle site) s).1 = false) := by
  obtain ⟨c, hc, row, -, hmethod, hargs⟩ :=
    Catalog.capability_of_resolve hcatalog hresolve hstep
  have hin : c ∈ capabilities := (Catalog.usableAfter_sublist _ _ _).subset hc
  constructor
  · intro hlife
    refine Step.execute_of_fatalInvocation (handle site) step s ?_
    rcases mem_capabilities hin with hc | hc | hc
    · exact absurd (hmethod ▸ hlife) (name_not_mem_lifecycle c (List.mem_append_left _ hc))
    · exact absurd (hmethod ▸ hlife) (name_not_mem_lifecycle c (List.mem_append_right _ hc))
    · have hunknown : Command.ofCall? step.method step.args = none := by
        rw [hmethod, hargs]
        exact ofCall?_lifecycle c hc row.target row.value
      show (invoke site step.method step.args s).1 = _
      rw [invoke_of_unknown site s hunknown]
  · intro hother
    have hanswered : c ∈ accessors ∨ c ∈ deeds := by
      rcases mem_capabilities hin with hc | hc | hc
      · exact Or.inl hc
      · exact Or.inr hc
      · exact absurd (hmethod ▸ List.mem_map_of_mem hc) hother
    refine Step.isFatal_execute (handle site) step s ?_ ?_
    · rw [hmethod, hargs]
      exact isFatal_invoke_of_answered site s hanswered row.target row.value
    · intro timeout t
      rw [handle_await_fst]
      exact t.isFatal_await site timeout

/-- With the life cycle reserved, no step of any script is fatal. -/
theorem isFatal_execute_of_reserved (hcatalog : Session.catalog settings = .ok catalog)
    (hreserved : ∀ c ∈ lifecycle, c.name ∈ settings.reserved)
    (hresolve : catalog.resolve rows = .ok steps) {step : Step} (hstep : step ∈ steps)
    (site : Site) (s : Session) : isFatal (step.execute (handle site) s).1 = false := by
  refine (execute_of_resolve hcatalog hresolve hstep site s).2 ?_
  intro hlife
  obtain ⟨c, hc, row, -, hmethod, -⟩ := Catalog.capability_of_resolve hcatalog hresolve hstep
  obtain ⟨d, hd, hname⟩ := List.mem_map.mp hlife
  refine (Catalog.not_mem_of_usableAfter hc).1 ?_
  rw [← hmethod, ← hname]
  exact hreserved d hd

end Session

/-! ## Cases -/

namespace Suite

variable {settings : CatalogSettings} {catalog : Catalog}

/-- The case was aborted on the way to its first step: it has gone to its page, and nothing else has
been done. -/
structure Unbegun (catalog : Catalog) (site : Site) (case : Case) (a : AbortedCase) : Prop where
  aborted : outcomeOf case (runSeen catalog site case).outcome = .aborted a
  code : a.code = "NAVIGATION_FAILED" ∨ a.code = "UNKNOWN_COMMAND"
  calls : (runSeen catalog site case).state.2 = [.navigate case.url]

/-- With the life cycle reserved, a case that is aborted has been aborted before it was executed. -/
theorem unbegun_of_aborted (hcatalog : Session.catalog settings = .ok catalog)
    (hreserved : ∀ c ∈ Session.lifecycle, c.name ∈ settings.reserved) {site : Site} {case : Case}
    {a : AbortedCase} (ha : outcomeOf case (runSeen catalog site case).outcome = .aborted a) :
    Unbegun catalog site case a := by
  cases hsteps : case.steps catalog site.loadRows with
  | error e =>
      have herror : (checkCase catalog site case).error = some e.message := by
        rw [checkCase, hsteps]
      obtain ⟨code, hcode, habort, hcalls⟩ :=
        (agreement catalog site case).broken e.message herror
      rw [ha, CaseOutcome.aborted.injEq] at habort
      subst habort
      exact ⟨ha, by simpa using hcode, hcalls⟩
  | ok steps =>
      obtain ⟨rows, hrows, hresolve⟩ := Except.bind_ok_iff.mp hsteps
      obtain ⟨⟨url, page⟩, hl, -⟩ := Except.map_ok_iff.mp hrows
      obtain ⟨report, hreport⟩ := Case.run_ok_of_not_fatal (goTo_found hl) hsteps
        (fun step hstep t =>
          Session.isFatal_execute_of_reserved hcatalog hreserved hresolve hstep site t) {}
      rw [runSeen_outcome, runAlone, hreport] at ha
      cases ha

/-- A step of a script for the browser is fatal if its method belongs to the life cycle, and
succeeds or fails as the page does otherwise.  Under the default reserved names, whatever the
timeout, the catalog can be made, and no case of a suite is aborted once its first step has begun;
so the report of a suite tells of no abortion but for pages and commands that are missing, however
many cases run at once and whether or not it fails fast. -/
theorem fatal_only_lifecycle :
    (∀ (settings : CatalogSettings) (catalog : Catalog), Session.catalog settings = .ok catalog →
      ∀ (rows : List Row) (steps : List Step), catalog.resolve rows = .ok steps →
      ∀ step ∈ steps, ∀ (site : Site) (s : Session),
        let result := (step.execute (Session.handle site) s).1
        if step.method ∈ ["start", "stop", "pause", "setExtensionJs", "allowNativeXpath",
            "setBrowserLogLevel", "addCustomRequestHeader", "rollup"] then
          result = .error
            (.fatalInvocation step.method step.args "not supported by the simulated browser")
        else (∃ v, result = .ok v) ∨ ∃ e, result = .error e ∧ e.isDomain = true) ∧
    ∀ (timeout : UInt64) (runner : RunnerSettings) (suite : Suite),
      let settings : Settings := ⟨{ andWaitTimeout := timeout }, runner⟩
      ∃ catalog report, Session.catalog settings.catalog = .ok catalog ∧
        suite.run settings = .ok report ∧
        (∀ case ∈ suite.cases, ∀ a,
          outcomeOf case (runSeen catalog suite.site case).outcome = .aborted a →
            Unbegun catalog suite.site case a) ∧
        (∀ a ∈ report.aborted, ∃ case ∈ suite.cases, Unbegun catalog suite.site case a) ∧
        ∀ pool, Pool.Reaches catalog suite.site runner (.ofCases suite.cases) pool →
          ∀ a ∈ (collect suite.name suite.cases.length pool.collected).aborted,
            ∃ case ∈ suite.cases, Unbegun catalog suite.site case a := by
  constructor
  · intro settings catalog hcatalog rows steps hresolve step hstep site s result
    obtain ⟨hlife, hother⟩ := Session.execute_of_resolve hcatalog hresolve hstep site s
    split
    · next hin => exact hlife hin
    · next hout => exact isFatal_eq_false_iff.mp (hother hout)
  · intro timeout runner suite settings
    obtain ⟨catalog, hcatalog⟩ :=
      Session.catalog_of_reserved settings.catalog Session.kindOf_reserved
    have hreserved : ∀ c ∈ Session.lifecycle, c.name ∈ settings.catalog.reserved :=
      Session.lifecycle_reserved
    refine ⟨catalog, suite.runWith catalog runner.failFast, hcatalog, ?_, ?_, ?_, ?_⟩
    · rw [run, hcatalog]
      rfl
    · intro case _ a ha
      exact unbegun_of_aborted hcatalog hreserved ha
    · intro a ha
      obtain ⟨case, hcase, hout⟩ := case_of_aborted ha
      exact ⟨case, hcase, unbegun_of_aborted hcatalog hreserved hout⟩
    · intro pool hreach a ha
      obtain ⟨run, hrun, hout⟩ := mem_aborted_collect.mp ha
      obtain ⟨case, hcase, place, rfl⟩ := hreach.drawn.collected run hrun
      exact ⟨case, hcase, unbegun_of_aborted hcatalog hreserved (aborted_of_runAt hout)⟩

/-- A script that pauses, under settings that do not reserve it, and a suite whose page is lost,
under the default settings. -/
theorem fatal_only_lifecycle_pause :
    let settings : CatalogSettings :=
      { reserved := (Session.capabilities.map (·.name)).erase "pause" }
    let step : Step := ⟨"pauseAndWait", "pause", ["10"], .invokeAndWait "30000"⟩
    let lost : AbortedCase :=
      ⟨"/lost", "/lost", "NAVIGATION_FAILED", "Failed to navigate to '/lost': no such page"⟩
    let suite : Suite := { name := "lost", tests := [{ url := "/lost" }] }
    (Session.catalog settings).bind (·.resolve [⟨"pauseAndWait", "10", ""⟩]) = .ok [step] ∧
      (step.execute (Session.handle {}) {}).1 = .error
        (.fatalInvocation "pause" ["10"] "not supported by the simulated browser") ∧
      ∃ catalog report, suite.run {} = .ok report ∧
        Unbegun catalog suite.site ⟨"/lost", "/lost"⟩ lost := by
  intro settings step lost suite
  have hstep : (Session.catalog settings).bind
      (·.resolve [⟨"pauseAndWait", "10", ""⟩]) = .ok [step] := by decide +kernel
  refine ⟨hstep, ?_, ?_⟩
  · obtain ⟨catalog, hcatalog, hresolve⟩ := Except.bind_ok_iff.mp hstep
    have hfatal := fatal_only_lifecycle.1 settings catalog hcatalog _ _ hresolve step
      List.mem_cons_self {} {}
    rwa [if_pos (by decide)] at hfatal
  · obtain ⟨catalog, report, -, hrun, haborted, -⟩ := fatal_only_lifecycle.2 30000 {} suite
    have hlost : (runSeen catalog suite.site ⟨"/lost", "/lost"⟩).outcome =
        .error (.navigation "/lost" "no such page") := by
      refine ((Case.run_course _ _ _ _ _ _ _).lost {} _ ?_).1
      exact goTo_lost (by decide +kernel)
    have hin : (⟨"/lost", "/lost"⟩ : Case) ∈ suite.cases := by decide +kernel
    refine ⟨catalog, report, hrun, haborted ⟨"/lost", "/lost"⟩ hin lost ?_⟩
    rw [hlost]
    decide +kernel

end Suite

end TableTest
