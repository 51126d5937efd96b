/-
`TableTest.Proofs.CheckInsertion` — checks do not disturb a session

The checks in the catalog of the browser are checks of its accessors, and these are read as queries,
so neither a check nor an accessor by itself changes the session.  A row that only looks can
therefore be put anywhere into a script: the other rows do not notice.  As nothing but the loading
of a script reads the script tables of a site, this goes for a row that is put into the table of a
page.
-/
import TableTest.Proofs.BrowserCatalog
import TableTest.Proofs.Insertion
import TableTest.Proofs.SuiteAgreement

namespace TableTest

variable {settings : CatalogSettings} {catalog : Catalog} {row : Row} {entry : Entry}

/-! ## Commands that only look -/

/-- The command is a check, or it is a direct action whose name begins with `get` or `is`. -/
def Entry.onlyLooks (entry : Entry) : Bool :=
  match entry.form.kind with
  | .assert | .verify => true
  | .action => Text.startsWith "get" entry.command || Text.startsWith "is" entry.command
  | .andWait => false

theorem Entry.step_of_onlyLooks (hlooks : entry.onlyLooks = true) (row : Row)
    (timeout : String) : (entry.step row).action ≠ .invokeAndWait timeout := by
  obtain ⟨command, capability, form⟩ := entry
  cases form with
  | action | check _ _ _ => nofun
  | andWait _ => cases hlooks

/-- A name has a short name exactly if it begins with `get` or `is`. -/
theorem Naming.isSome_shortName? (name : String) :
    (shortName? name).isSome = (Text.startsWith "get" name || Text.startsWith "is" name) := by
  simp [shortName?, Text.after?, Text.startsWith]

/-- A command that only looks belongs to an accessor. -/
theorem Catalog.shortName?_of_onlyLooks {timeout : String} {c : Capability}
    (hin : entry ∈ planned timeout c) (hlooks : entry.onlyLooks = true) :
    (Naming.shortName? c.name).isSome = true := by
  unfold planned at hin
  rcases List.mem_cons.mp hin with rfl | hin
  · rw [Naming.isSome_shortName?]
    exact hlooks
  rcases List.mem_append.mp hin with hin | hin
  · cases hshort : Naming.shortName? c.name with
    | some short => rfl
    | none =>
        rw [hshort] at hin
        cases hin
  · obtain rfl := List.mem_singleton.mp hin
    cases hlooks

namespace Session

/-! ## They leave the session as it is -/

theorem shortName?_of_not_accessor :
    ∀ c ∈ deeds ++ lifecycle, (Naming.shortName? c.name).isSome = false := by
  decide +kernel

theorem invoke_accessor (site : Site) {c : Capability} (hc : c ∈ accessors)
    (target value : String) (s : Session) : (invoke site c.name (c.bind target value) s).2 = s := by
  obtain ⟨q, hq⟩ := ofCall?_accessor c hc target value
  rw [invoke, hq]
  rfl

theorem idle_of_onlyLooks (hcatalog : Session.catalog settings = .ok catalog)
    (hentry : catalog.get? row.command = some entry) (hlooks : entry.onlyLooks = true)
    (site : Site) : (entry.step row).Idle (handle site) := by
  obtain ⟨hplan, -⟩ := (Catalog.holds_of_build hcatalog).get?_iff.mp hentry
  obtain ⟨c, hc, hin⟩ := List.mem_flatMap.mp hplan
  have hshort := Catalog.shortName?_of_onlyLooks hin hlooks
  have hknown : c ∈ capabilities := (Catalog.usableAfter_sublist _ _ _).subset hc
  cases Catalog.capability_of_mem_planned hin
  have haccessor : entry.capability ∈ accessors := by
    rcases mem_capabilities hknown with h | h
    · exact h
    · rw [shortName?_of_not_accessor _ (List.mem_append.mpr h)] at hshort
      cases hshort
  intro s
  rw [Step.execute_state _ _ _ (Entry.step_of_onlyLooks hlooks row)]
  exact invoke_accessor site haccessor row.target row.value s

end Session

/-! ## Script tables -/

/-- The page with another script table. -/
def Page.rescript (script : Page → List (List String)) (page : Page) : Page :=
  { page with script := script page }

/-- The site with other script tables on its pages. -/
def Site.rescript (script : Page → List (List String)) (site : Site) : Site :=
  { site with pages := site.pages.map (·.rescript script) }

variable (script : Page → List (List String)) (site : Site)

theorem Site.page?_rescript (url : String) :
    (site.rescript script).page? url = (site.page? url).map (·.rescript script) := by
  rw [page?, rescript, List.find?_map]
  rfl

theorem Site.resolveUrl_rescript (target : String) :
    (site.rescript script).resolveUrl target = site.resolveUrl target := rfl

theorem Site.locate_rescript (target : String) :
    (site.rescript script).locate target =
      (site.locate target).map fun (url, page) => (url, page.rescript script) := by
  simp only [locate, resolveUrl_rescript, page?_rescript]
  cases site.page? (site.resolveUrl target) <;> rfl

namespace Session

theorem page_rescript (s : Session) :
    s.page (site.rescript script) = (s.page site).map (·.rescript script) := by
  have hpage : s.location.bind (site.rescript script).page? =
      (s.location.bind site.page?).map (·.rescript script) := by
    cases s.location with
    | none => rfl
    | some url => exact site.page?_rescript script url
  rw [page, page, hpage]
  cases s.location.bind site.page? <;> rfl

theorem load_rescript : load (site.rescript script) = load site := by
  funext target s
  rw [load, load, Site.locate_rescript]
  cases site.locate target <;> rfl

theorem await_rescript (timeout : String) (s : Session) :
    s.await (site.rescript script) timeout = s.await site timeout := by
  rw [await, await, page_rescript]
  cases s.page site <;> rfl

theorem perform_rescript (a : Action) : perform (site.rescript script) a = perform site a := by
  funext s
  have hload := load_rescript script site
  cases a with
  | refresh =>
      show Procedure.andThen (.reading (·.page (site.rescript script))) _ s =
        Procedure.andThen (.reading (·.page site)) _ s
      simp only [Procedure.andThen, Procedure.reading, page_rescript]
      cases s.page site <;> rfl
  | await timeout =>
      exact congrArg (·, s) (await_rescript script site timeout s)
  | openUrl target => simp only [perform, openFor, hload]
  | click locator => simp only [perform, click, clickElement, follow, openFor, hload]
  | submit locator => simp only [perform, submit, follow, openFor, hload]
  | goBack => simp only [perform, goBack, openFor, hload]
  | _ => rfl

theorem ask_rescript (q : Query) (s : Session) : s.ask (site.rescript script) q = s.ask site q := by
  have hpage := page_rescript script site s
  cases q with
  | title | bodyText | textPresent =>
    simp only [ask, hpage]
    cases s.page site <;> rfl
  | _ => rfl

/-- Nothing that a session does depends on the script tables of its site. -/
theorem handle_rescript : handle (site.rescript script) = handle site := by
  have hinvoke : invoke (site.rescript script) = invoke site := by
    funext method args
    unfold invoke
    split
    · next command _ =>
      cases command with
      | query q => exact funext fun s => congrArg (·, s) (ask_rescript script site q s)
      | action a => simp only [Command.answer, perform_rescript]
    · rfl
  have hnavigate : navigate (site.rescript script) = navigate site := load_rescript script site
  simp only [handle, await_rescript, hinvoke, hnavigate]

/-! ## One row more -/

theorem resolveRow_of_get? (hentry : catalog.get? row.command = some entry) :
    catalog.resolveRow row = .ok (entry.step row) := by
  rw [Catalog.resolveRow, hentry]

theorem loadRows_rescript {case : Case} {url : String} {page : Page}
    (hl : site.locate case.url = .ok (url, page)) :
    (site.rescript script).loadRows case.url = .ok (Row.ofTable (script page)) := by
  rw [Site.loadRows, Site.locate_rescript, hl]
  rfl

/-- A row that only looks, put anywhere into a script, does not disturb the others.  If all are
executed, whatever they come to, each of the others comes to the same end at the same address, and
the session is left in the same state.  Put into the script of a case, where it passes if its turn
comes, it changes neither whether the case passes nor which of the other rows fails, and how. -/
theorem checks_disturb_nothing (hcatalog : Session.catalog settings = .ok catalog)
    (hentry : catalog.get? row.command = some entry) (hlooks : entry.onlyLooks = true)
    (site : Site) (first rest : List Row) :
    let h := handle site
    let check := entry.step row
    ((∃ e, catalog.resolve (first ++ rest) = .error e ∧
        catalog.resolve (first ++ row :: rest) = .error e) ∨
      ∃ before later, before.length = first.length ∧
        catalog.resolve (first ++ rest) = .ok (before ++ later) ∧
        catalog.resolve (first ++ row :: rest) = .ok (before ++ check :: later) ∧
        ∀ s, (Step.log h (before ++ check :: later) s).eraseIdx first.length =
            Step.log h (before ++ later) s ∧
          Step.after h (before ++ check :: later) s = Step.after h (before ++ later) s) ∧
    ∀ (case : Case) (url : String) (page : Page) (script : Page → List (List String)),
      site.locate case.url = .ok (url, page) → Row.ofTable page.script = first ++ rest →
      Row.ofTable (script page) = first ++ row :: rest → ∀ (s : Session) (results : Results),
      (∀ before, catalog.resolve first = .ok before →
        Case.PassesAfter h before check (case.goTo h s).2) →
      let longer := site.rescript script
      let run := case.run catalog site.loadRows h s results
      let run' := case.run catalog longer.loadRows (handle longer) s results
      Case.Lengthened case (first.length + 1) run.outcome run'.outcome ∧
        run'.state = run.state ∧ run'.results.passed = run.results.passed ∧
        run'.results.failed = run.results.failed := by
  intro h check
  have hrow : catalog.resolveRow row = .ok check := resolveRow_of_get? hentry
  have hidle : check.Idle h := idle_of_onlyLooks hcatalog hentry hlooks site
  constructor
  · rcases Catalog.resolve_insert hrow first rest with hlost | ⟨before, later, hfirst, hr, hr'⟩
    · exact Or.inl hlost
    · have hlen : before.length = first.length := Catalog.resolve_length hfirst
      refine Or.inr ⟨before, later, hlen, hr, hr', ?_⟩
      intro s
      rw [← hlen]
      exact hidle.insert before later s
  · intro case url page script hl htable htable' s results hpass longer run run'
    have hload : site.loadRows case.url = .ok (first ++ rest) := by
      rw [Suite.loadRows_found hl, htable]
    have hload' : longer.loadRows case.url = .ok (first ++ row :: rest) := by
      rw [loadRows_rescript script site hl, htable']
    have hhandle : handle longer = h := handle_rescript script site
    obtain ⟨hlengthened, hstate⟩ :=
      Case.lengthened_run s results hrow hidle hload hload' hpass
    obtain ⟨hpassed, hfailed⟩ := hlengthened.counts results
    simp only [run', run, hhandle]
    refine ⟨hlengthened, hstate, ?_, ?_⟩
    · rw [Case.run_results, Case.run_results]
      exact hpassed
    · rw [Case.run_results, Case.run_results]
      exact hfailed

/-- A check of the address before a row that fails. -/
theorem checks_disturb_nothing_location :
    let settings : CatalogSettings :=
      { reserved := (capabilities.map (·.name)).filter (· ∉ ["open", "getLocation"]) }
    let check : List String := ["verifyLocation", "/a", ""]
    let page : Page := { url := "/a", script := [["open", "/a", ""], ["open", "/b", ""]] }
    let site : Site := { pages := [page] }
    let longer := site.rescript fun page => page.script.insertIdx 1 check
    let case : Case := ⟨"a", "/a"⟩
    ∃ catalog, Session.catalog settings = .ok catalog ∧
      Case.Lengthened case 2 (case.run catalog site.loadRows (handle site) {} {}).outcome
        (case.run catalog longer.loadRows (handle longer) {} {}).outcome := by
  intro settings check page site longer case
  let row : Row := ⟨"verifyLocation", "/a", ""⟩
  let entry : Entry := ⟨"verifyLocation", ⟨"getLocation", 0⟩, .check .verify .target .equal⟩
  let first : List Row := [⟨"open", "/a", ""⟩]
  let rest : List Row := [⟨"open", "/b", ""⟩]
  have hbuilt : (Session.catalog settings).map (fun catalog =>
      (catalog.get? row.command, (catalog.resolve first).toOption)) =
        .ok (some entry, some [⟨"open", "open", ["/a"], .invoke⟩]) := by
    decide +kernel
  obtain ⟨catalog, hcatalog, hfound⟩ := Except.map_ok_iff.mp hbuilt
  obtain ⟨hentry, hfirst⟩ := Prod.mk.inj hfound
  have hinsert := (checks_disturb_nothing hcatalog hentry rfl site first rest).2 case "/a" page
    (fun page => page.script.insertIdx 1 check) (by decide +kernel) (by decide +kernel)
    (by decide +kernel) {} {}
  refine ⟨catalog, hcatalog, (hinsert ?_).1⟩
  intro before hbefore
  rw [hbefore] at hfirst
  obtain rfl := Option.some.inj hfirst
  intro _
  exact ⟨.text "/a", by decide +kernel⟩

end Session

end TableTest
