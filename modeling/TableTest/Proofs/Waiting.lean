/-
`TableTest.Proofs.Waiting` — a failure that is pending while a step waits

A step that waits does so even after its invocation has failed as the page does, and that failure is
pending until the wait is over.  A fatal wait takes its place.  A wait that fails as the page does
ought to leave it in its place, and takes it too: so the pending failure is what the step comes to
exactly if the wait does not fail in another way of the page.
-/
import TableTest.Proofs.Step
import TableTest.Session.Command

namespace TableTest.Step

variable {σ : Type} {h : Handle σ} {step : Step} {s : σ} {timeout : String} {d : Failure}

/-- The failure that a step ought to report when the one of its invocation is pending and the wait
has come to a result: a wait that is fatal wins over the pending failure, and no other wait does. -/
def pendingFailure (timeout : String) (d : Failure) : Except Failure Unit → Failure
  | .ok () => d
  | .error e => if e.isDomain then d else .ofCall waitMethod [timeout] e

/-- A step whose invocation fails as the page does waits all the same. -/
theorem execute_of_domain (haction : step.action = .invokeAndWait timeout)
    (hinvoke : (h.invoke step.method step.args s).1 = .error d) (hd : d.isDomain = true) :
    step.execute h s =
      waitThen h timeout (.error d) (h.invoke step.method step.args s).2 := by
  have hnot : isFatal (h.invoke step.method step.args s).1 = false :=
    isFatal_eq_false_iff.mpr (Or.inr ⟨d, hinvoke, hd⟩)
  rw [execute_of_waits ⟨haction, hnot⟩, hinvoke]

/-- A pending failure is reported as it ought to be, unless the wait fails in another way of the
page. -/
theorem waitThen_pending_iff :
    (waitThen h timeout (.error d) s).1 = .error (pendingFailure timeout d (h.await timeout s).1) ↔
      ∀ e, (h.await timeout s).1 = .error e → e.isDomain = true → e = d := by
  cases hw : (h.await timeout s).1 with
  | ok => simp [waitThen_of_ok hw, pendingFailure]
  | error e =>
      rw [waitThen_of_error hw, pendingFailure]
      cases he : e.isDomain with
      | true => simp [Failure.ofCall_of_isDomain he, he]
      | false => simp [he]

/-- A step that waits, and whose invocation fails as the page does, makes one wait after it, with
its own timeout.  It comes to the pending failure if the wait succeeds, and to the failure of the
wait if that fails, be it fatal or not.  So a fatal wait wins, as it ought to; a wait that fails as
the page does ought not to, and the step is as it ought to be exactly if no other such failure comes
of the wait. -/
theorem pending_failure_reported (haction : step.action = .invokeAndWait timeout)
    (hinvoke : (h.invoke step.method step.args s).1 = .error d) (hd : d.isDomain = true) :
    let waited := h.await timeout (h.invoke step.method step.args s).2
    (∀ seen, step.execute h.traced (s, seen) =
      ((step.execute h s).1, waited.2,
        seen ++ [.invoke step.method step.args, .await timeout])) ∧
    (waited.1 = .ok () → (step.execute h s).1 = .error d) ∧
    (∀ e, waited.1 = .error e → e.isDomain = true → (step.execute h s).1 = .error e) ∧
    (∀ e, waited.1 = .error e → e.isDomain = false →
      (step.execute h s).1 = .error (.ofCall waitMethod [timeout] e)) ∧
    ((step.execute h s).1 = .error (pendingFailure timeout d waited.1) ↔
      ∀ e, waited.1 = .error e → e.isDomain = true → e = d) := by
  intro waited
  have hexec := execute_of_domain haction hinvoke hd
  refine ⟨?_, ?_, ?_, ?_, ?_⟩
  · intro seen
    have hcalls : step.calls h s = [.invoke step.method step.args, .await timeout] := by
      simp [calls, callsAfter, haction, hinvoke, isFatal, hd]
    rw [execute_traced, hcalls, hexec, waitThen_state]
  · intro hw
    rw [hexec, waitThen_of_ok hw]
  · intro e hw he
    rw [hexec, waitThen_of_error hw, Failure.ofCall_of_isDomain he]
  · intro e hw _
    rw [hexec, waitThen_of_error hw]
  · rw [hexec]
    exact waitThen_pending_iff

/-- A click on what is not there, on a page that is ready. -/
theorem pending_failure_reported_ready :
    let site : Site := { pages := [{ url := "/home" }] }
    let s : Session := { location := some "/home" }
    let step : Step := ⟨"clickAndWait", "click", ["go"], .invokeAndWait "30000"⟩
    step.execute (Session.handle site).traced (s, []) =
      (.error (.elementNotFound "go"), s, [.invoke "click" ["go"], .await "30000"]) := by
  intro site s step
  have hinvoke : (Session.handle site).invoke step.method step.args s =
      (.error (.elementNotFound "go"), s) := by decide +kernel
  have hready : (Session.handle site).await "30000" s = (.ok (), s) := by decide +kernel
  obtain ⟨htraced, hok, -⟩ := @pending_failure_reported Session (Session.handle site) step s
    "30000" (.elementNotFound "go") rfl (by rw [hinvoke]) rfl
  rw [hinvoke, hready] at htraced hok
  rw [htraced, hok rfl]
  rfl

/-- The same click on a page that never gets ready: that the element is not there ought to be
reported after the wait, and what is reported is the wait. -/
theorem wait_hides_pending_failure :
    let site : Site := { pages := [{ url := "/slow", ready := false }] }
    let s : Session := { location := some "/slow" }
    let step : Step := ⟨"clickAndWait", "click", ["go"], .invokeAndWait "30000"⟩
    let late : Failure := .commandFailed "waitForPageToLoad" "Timed out after 30000ms"
    (Session.handle site).invoke step.method step.args s = (.error (.elementNotFound "go"), s) ∧
      (Session.handle site).await "30000" s = (.error late, s) ∧
      pendingFailure "30000" (.elementNotFound "go") (.error late) = .elementNotFound "go" ∧
      (step.execute (Session.handle site) s).1 = .error late := by
  decide +kernel

end TableTest.Step
