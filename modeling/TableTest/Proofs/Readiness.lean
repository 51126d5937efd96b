/-
`TableTest.Proofs.Readiness` — what a command finds when it waits

A command that waits hands the configured time on as a text, and the browser reads that text as the
number that was configured, whatever number it is.  So a wait cannot fail over its time.  It judges
the page at which the session is when the invocation is over: the one to which a link, a form or
going back has led, and not the one that was left.  In a session that has come about by calls, the
wait fails if there is no page, or if the page is not ready, and in no other way.
-/
import TableTest.Proofs.BrowserCatalog
import TableTest.Proofs.Decimal
import TableTest.Proofs.SessionInvariant
import TableTest.Proofs.StepOutcome

namespace TableTest

variable {settings : CatalogSettings} {catalog : Catalog} {entry : Entry}

/-! ## The commands that wait -/

/-- Every command of a catalog that waits does so for the configured time. -/
theorem Catalog.form_of_waits {cs : List Capability} (hbuild : build settings cs = .ok catalog)
    (hentry : entry ∈ catalog.entries) (hkind : entry.form.kind = .andWait) :
    entry.form = .andWait settings.timeoutText := by
  have hplan := (holds_of_build hbuild).entries_perm.mem_iff.mp hentry
  obtain ⟨c, -, hin⟩ := List.mem_flatMap.mp hplan
  rcases planned_cases hin with rfl | ⟨_, _, mode, x, -, -, rfl⟩ | rfl
  · cases hkind
  · cases mode <;> cases x <;> cases hkind
  · rfl

theorem Entry.action_of_waits {timeout : String} (hform : entry.form = .andWait timeout)
    (row : Row) : (entry.step row).action = .invokeAndWait timeout := by
  show entry.stepAction row = _
  rw [stepAction, hform]

namespace Session

variable {site : Site} {s : Session}

/-! ## The time that is waited -/

/-- The configured time is read as the number that it is. -/
theorem readMillis_timeoutText (command : String) (settings : CatalogSettings) :
    readMillis command settings.timeoutText = .ok settings.andWaitTimeout := by
  rw [readMillis, CatalogSettings.timeoutText, Text.trim_toString, Text.word?_toString]

/-! ## What is found -/

/-- The session is at a page of the site that is ready. -/
def AtReadyPage (site : Site) (s : Session) : Prop :=
  ∃ url page, s.location = some url ∧ site.page? url = some page ∧ page.ready = true

/-- What a wait for a number of milliseconds comes to in a session. -/
inductive Awaited (site : Site) (millis : UInt64) (s : Session) : Except Failure Unit → Prop
  /-- No page has been loaded. -/
  | nowhere : s.location = none →
      Awaited site millis s (.error (.commandFailed "page" "no page has been loaded"))
  /-- The current page does not get ready. -/
  | late {url : String} {page : Page} : s.location = some url → site.page? url = some page →
      page.ready = false →
      Awaited site millis s
        (.error (.commandFailed "waitForPageToLoad" s!"Timed out after {millis.toNat}ms"))
  /-- The current page is ready. -/
  | ready : s.AtReadyPage site → Awaited site millis s (.ok ())

theorem await_timeoutText (settings : CatalogSettings) (site : Site) (s : Session) :
    s.await site settings.timeoutText = (s.page site).bind fun page =>
      if page.ready then .ok ()
      else refuse "waitForPageToLoad" s!"Timed out after {settings.andWaitTimeout.toNat}ms" := by
  rw [await, readMillis_timeoutText]
  rfl

theorem Awaited.eq_await {r : Except Failure Unit}
    (h : s.Awaited site settings.andWaitTimeout r) : s.await site settings.timeoutText = r := by
  rw [await_timeoutText]
  cases h with
  | nowhere hnone =>
      rw [page, hnone]
      rfl
  | late hurl hpage hlate =>
      rw [page_of_location hurl hpage, Except.bind, hlate]
      rfl
  | ready hready =>
      obtain ⟨url, page, hurl, hpage, hready⟩ := hready
      rw [page_of_location hurl hpage, Except.bind, hready]
      rfl

theorem Valid.awaited (hv : Valid site s) (settings : CatalogSettings) :
    s.Awaited site settings.andWaitTimeout (s.await site settings.timeoutText) := by
  rw [await_timeoutText]
  cases hurl : s.location with
  | none =>
      rw [page, hurl]
      exact .nowhere hurl
  | some url =>
      obtain ⟨page, hpage, -⟩ := hv.current url hurl
      rw [page_of_location hurl hpage, Except.bind]
      cases hready : page.ready with
      | false => exact .late hurl hpage hready
      | true => exact .ready ⟨url, page, hurl, hpage, hready⟩

/-- A wait for the configured time comes to what a wait can come to, and to nothing else. -/
theorem Valid.await_eq_iff (hv : Valid site s) {r : Except Failure Unit} :
    s.await site settings.timeoutText = r ↔ s.Awaited site settings.andWaitTimeout r := by
  constructor
  · rintro rfl
    exact hv.awaited settings
  · exact Awaited.eq_await

theorem Valid.await_ok_iff (hv : Valid site s) (settings : CatalogSettings) :
    s.await site settings.timeoutText = .ok () ↔ s.AtReadyPage site := by
  rw [hv.await_eq_iff]
  constructor
  · intro h
    cases h with
    | ready hready => exact hready
  · exact .ready

/-! ## Steps that wait -/

/-- A wait leaves the session as it is; if it fails, that is what the step comes to. -/
theorem waitThen_handle (site : Site) (timeout : String) (result : Except Failure Value)
    (s : Session) :
    Step.waitThen (handle site) timeout result s =
      ((s.await site timeout).bind fun _ => result, s) := by
  have hawait : ((handle site).await timeout s).1 = s.await site timeout :=
    handle_await_fst site s timeout
  have hfatal := s.isFatal_await site timeout
  cases hw : s.await site timeout with
  | ok =>
      rw [Step.waitThen_of_ok (hawait.trans hw)]
      rfl
  | error e =>
      -- the browser's wait fails only as the page does, and such a failure is handed on as it is
      have hd : e.isDomain = true := by simpa [isFatal, hw] using hfatal
      rw [Step.waitThen_of_error (hawait.trans hw), Failure.ofCall_of_isDomain hd]
      rfl

theorem execute_of_waits {step : Step} {timeout : String}
    (hwaits : step.Waits (handle site) s timeout) :
    let invoked := (handle site).invoke step.method step.args s
    step.execute (handle site) s =
      ((invoked.2.await site timeout).bind fun _ => invoked.1, invoked.2) := by
  rw [Step.execute_of_waits hwaits, waitThen_handle]

theorem execute_traced_of_waits {step : Step} {timeout : String}
    (hwaits : step.Waits (handle site) s timeout) (seen : List Call) :
    let invoked := (handle site).invoke step.method step.args s
    step.execute (handle site).traced (s, seen) =
      ((invoked.2.await site timeout).bind fun _ => invoked.1, invoked.2,
        seen ++ [.invoke step.method step.args, .await timeout]) := by
  have hleft : (step.waited (handle site) s timeout).2 =
      ((handle site).invoke step.method step.args s).2 := rfl
  rw [Step.execute_traced_of_waits hwaits, execute_of_waits hwaits, hleft]

/-- A command of the browser's catalog that waits, on any row, in a session that has come about by
any calls.  The time that is handed on is read as the number that is configured.  Unless the
invocation is fatal, one wait follows it, in the session that it leaves, and the step comes to the
failure of the wait, or else to what the invocation has come to.  The wait fails if no page has been
loaded then, or if the page that is current then does not get ready, and succeeds if that page is
ready.  So a step whose invocation succeeds comes to the value of that exactly if the session is at
a page that is ready after it, and to no value otherwise. -/
theorem wait_judges_current_page (hcatalog : Session.catalog settings = .ok catalog)
    (hentry : entry ∈ catalog.entries) (hkind : entry.form.kind = .andWait) (row : Row)
    (site : Site) (calls : List Call) :
    let h := handle site
    let s := reached site calls
    let step := entry.step row
    let timeout := toString settings.andWaitTimeout.toNat
    let invoked := h.invoke step.method step.args s
    let waited := (h.await timeout invoked.2).1
    readMillis Step.waitMethod timeout = .ok settings.andWaitTimeout ∧
    (isFatal invoked.1 = false →
      (∀ seen, step.execute h.traced (s, seen) = (waited.bind fun _ => invoked.1, invoked.2,
        seen ++ [.invoke step.method step.args, .await timeout])) ∧
      (∀ r, waited = r ↔ invoked.2.Awaited site settings.andWaitTimeout r) ∧
      ∀ v, invoked.1 = .ok v → ∀ w,
        (step.execute h s).1 = .ok w ↔ w = v ∧ invoked.2.AtReadyPage site) := by
  intro h s step timeout invoked waited
  refine ⟨readMillis_timeoutText _ settings, ?_⟩
  intro hinvoke
  have haction : step.action = .invokeAndWait timeout :=
    Entry.action_of_waits (Catalog.form_of_waits hcatalog hentry hkind) row
  have hwaits : step.Waits h s timeout := ⟨haction, hinvoke⟩
  -- what the invocation leaves has come about by one call more
  have hvalid : Valid site invoked.2 :=
    (valid_reached site calls).change (after_change site s (.invoke step.method step.args))
  have hwaited : waited = invoked.2.await site timeout := handle_await_fst site invoked.2 timeout
  refine ⟨?_, ?_, ?_⟩
  · intro seen
    rw [hwaited]
    exact execute_traced_of_waits hwaits seen
  · intro r
    rw [hwaited]
    exact hvalid.await_eq_iff
  · intro v hv w
    rw [execute_of_waits hwaits, ← hvalid.await_ok_iff settings, hv,
      Except.bind_ok_iff]
    constructor
    · rintro ⟨⟨⟩, hok, hw⟩
      cases hw
      exact ⟨rfl, hok⟩
    · rintro ⟨rfl, hok⟩
      exact ⟨(), hok, rfl⟩

/-- The longest time that can be configured.  A link leads from a page that is ready to one that
never gets ready: it is clicked with a wait, and from there a wait goes with the way back. -/
theorem wait_judges_current_page_slow :
    let settings : CatalogSettings := { andWaitTimeout := 18446744073709551615 }
    let link : Element := { id := some "next", kind := .link, href := some "/slow" }
    let start : Page := { url := "/start", elements := [link] }
    let slow : Page := { url := "/slow", ready := false }
    let site : Site := { pages := [start, slow] }
    let click : Entry := ⟨"clickAndWait", ⟨"click", 1⟩, .andWait "18446744073709551615"⟩
    let back : Entry := ⟨"goBackAndWait", ⟨"goBack", 0⟩, .andWait "18446744073709551615"⟩
    let row (target : String) : Row := ⟨"", target, ""⟩
    let arrived : List Call := [.navigate "/start"]
    let followed : List Call := [.navigate "/start", .invoke "click" ["next"]]
    ∃ catalog, Session.catalog settings = .ok catalog ∧
      click ∈ catalog.entries ∧ back ∈ catalog.entries ∧
      ((click.step (row "next")).execute (handle site).traced (reached site arrived, [])).1 =
        .error (.commandFailed "waitForPageToLoad" "Timed out after 18446744073709551615ms") ∧
      ((back.step (row "")).execute (handle site) (reached site followed)).1 = .ok .void := by
  intro settings link start slow site click back row arrived followed
  obtain ⟨catalog, hcatalog⟩ := Session.catalog_of_reserved settings (by decide +kernel)
  have hholds := Catalog.holds_of_build hcatalog
  have hclick : click ∈ catalog.entries := hholds.entries_perm.mem_iff.mpr (by decide +kernel)
  have hback : back ∈ catalog.entries := hholds.entries_perm.mem_iff.mpr (by decide +kernel)
  refine ⟨catalog, hcatalog, hclick, hback, ?_, ?_⟩
  · obtain ⟨-, hsteps⟩ := wait_judges_current_page hcatalog hclick rfl (row "next") site arrived
    obtain ⟨htraced, hwaited, -⟩ := hsteps (by decide +kernel)
    have htext : s!"Timed out after {settings.andWaitTimeout.toNat}ms" =
        "Timed out after 18446744073709551615ms" := by decide +kernel
    let step : Step := click.step (row "next")
    have hurl : ((handle site).invoke step.method step.args (reached site arrived)).2.location =
        some "/slow" := by decide +kernel
    have hpage : site.page? "/slow" = some slow := by decide +kernel
    rw [htraced, (hwaited _).mpr (.late hurl hpage rfl), htext, Except.bind]
  · obtain ⟨-, hsteps⟩ := wait_judges_current_page hcatalog hback rfl (row "") site followed
    obtain ⟨-, -, hvalue⟩ := hsteps (by decide +kernel)
    exact (hvalue .void (by decide +kernel) .void).mpr
      ⟨rfl, "/start", start, by decide +kernel, by decide +kernel, rfl⟩

end Session

end TableTest
