/-
`TableTest.Proofs.StepOutcome` — what a step comes to, on any handle

A handle may answer with whatever failure it likes, and leave whatever state.  A step on it makes
its invocation, and then waits if it is to wait and the invocation was not fatal, and makes no other
call.  It comes to the value of the invocation, or to a failure of the page that one of the two
calls has come to or that the comparison makes, or to a fatal invocation.  A failure of a call that
is not one of the page is always told as a fatal invocation: as it is if it is one, and else as one
of that call.
-/
import TableTest.Proofs.Step

namespace TableTest

/-- What becomes of a failure of a call that is not one of the page. -/
inductive Failure.Becomes (method : String) (args : List String) : Failure → Failure → Prop
  | kept {m reason : String} {as : List String} :
      Becomes method args (.fatalInvocation m as reason) (.fatalInvocation m as reason)
  | wrapped {e : Failure} : e.isDomain = false → (∀ m as reason, e ≠ .fatalInvocation m as reason) →
      Becomes method args e (.fatalInvocation method args e.message)

theorem Failure.becomes_iff {method : String} {args : List String} {e f : Failure} :
    Becomes method args e f ↔ e.isDomain = false ∧ ofCall method args e = f := by
  constructor
  · intro h
    cases h with
    | kept => exact ⟨rfl, rfl⟩
    | wrapped hd hno =>
        refine ⟨hd, ?_⟩
        unfold ofCall
        split
        · exact absurd rfl (hno _ _ _)
        · rw [hd]
          rfl
  · rintro ⟨hd, rfl⟩
    unfold ofCall
    split
    · exact .kept
    · next hno =>
      rw [hd]
      exact .wrapped hd hno

namespace Step

variable {σ : Type} {h : Handle σ} {step : Step} {s : σ} {timeout : String}

/-- The wait of a step for a time. -/
def waited (h : Handle σ) (step : Step) (s : σ) (timeout : String) : Answer σ Unit :=
  h.await timeout (h.invoke step.method step.args s).2

/-- What a step can come to. -/
inductive Outcome (h : Handle σ) (step : Step) (s : σ) : Except Failure Value → Prop
  /-- The value of its invocation, if a check wants none other and no wait fails. -/
  | value {v : Value} : (h.invoke step.method step.args s).1 = .ok v →
      (∀ expected x, step.action = .compare expected x → x.holds v expected = true) →
      (∀ timeout, step.Waits h s timeout → (step.waited h s timeout).1 = .ok ()) →
      Outcome h step s (.ok v)
  /-- What a check says about the value of its invocation. -/
  | complaint {v : Value} {expected : String} {x : Expectation} :
      (h.invoke step.method step.args s).1 = .ok v → step.action = .compare expected x →
      x.holds v expected = false →
      Outcome h step s (.error (.assertionFailed (x.complaint v expected)))
  /-- The failure of its invocation, if that is one of the page and no wait fails. -/
  | failure {d : Failure} : (h.invoke step.method step.args s).1 = .error d → d.isDomain = true →
      (∀ timeout, step.Waits h s timeout → (step.waited h s timeout).1 = .ok ()) →
      Outcome h step s (.error d)
  /-- What becomes of the failure of its invocation, if that is none of the page. -/
  | fatal {e f : Failure} : (h.invoke step.method step.args s).1 = .error e →
      e.Becomes step.method step.args f → Outcome h step s (.error f)
  /-- The failure of its wait, if that is one of the page. -/
  | waitFailure {timeout : String} {d : Failure} : step.Waits h s timeout →
      (step.waited h s timeout).1 = .error d → d.isDomain = true → Outcome h step s (.error d)
  /-- What becomes of the failure of its wait, if that is none of the page. -/
  | waitFatal {timeout : String} {e f : Failure} : step.Waits h s timeout →
      (step.waited h s timeout).1 = .error e → e.Becomes waitMethod [timeout] f →
      Outcome h step s (.error f)

/-! ## The result -/

/-- A step comes to the result of its invocation, if that is not fatal, a check makes nothing else
of it, and no wait fails. -/
theorem execute_of_not_fatal (hinvoke : isFatal (h.invoke step.method step.args s).1 = false)
    (hcheck : ∀ expected x, step.action = .compare expected x →
      (h.invoke step.method step.args s).1.bind (x.check · expected) =
        (h.invoke step.method step.args s).1)
    (hwaits : ∀ timeout, step.Waits h s timeout → (step.waited h s timeout).1 = .ok ()) :
    (step.execute h s).1 = (h.invoke step.method step.args s).1 := by
  cases ha : step.action with
  | invoke => exact execute_of_invoke ha hinvoke
  | compare expected x => exact (execute_of_compare ha hinvoke).trans (hcheck expected x ha)
  | invokeAndWait timeout =>
      rw [execute_of_waits ⟨ha, hinvoke⟩, waitThen_of_ok (hwaits timeout ⟨ha, hinvoke⟩)]

theorem Outcome.eq_execute {r : Except Failure Value} (ho : step.Outcome h s r) :
    (step.execute h s).1 = r := by
  cases ho with
  | @value v hinvoke hholds hwaits =>
      have hnot : isFatal (h.invoke step.method step.args s).1 = false :=
        isFatal_eq_false_iff.mpr (Or.inl ⟨v, hinvoke⟩)
      rw [execute_of_not_fatal hnot ?_ hwaits, hinvoke]
      intro expected x haction
      rw [hinvoke]
      exact if_pos (hholds expected x haction)
  | complaint hinvoke haction hholds =>
      have hnot : isFatal (h.invoke step.method step.args s).1 = false :=
        isFatal_eq_false_iff.mpr (Or.inl ⟨_, hinvoke⟩)
      rw [execute_of_compare haction hnot, hinvoke]
      exact if_neg (Bool.eq_false_iff.mp hholds)
  | @failure d hinvoke hd hwaits =>
      have hnot : isFatal (h.invoke step.method step.args s).1 = false :=
        isFatal_eq_false_iff.mpr (Or.inr ⟨d, hinvoke, hd⟩)
      rw [execute_of_not_fatal hnot ?_ hwaits, hinvoke]
      intro expected x _
      rw [hinvoke]
      rfl
  | fatal hinvoke hbecomes =>
      obtain ⟨hd, rfl⟩ := Failure.becomes_iff.mp hbecomes
      rw [execute_of_fatal hinvoke hd]
  | waitFailure hw hwaited hd =>
      rw [execute_of_waits hw, waitThen_of_error hwaited, Failure.ofCall_of_isDomain hd]
  | waitFatal hw hwaited hbecomes =>
      obtain ⟨-, rfl⟩ := Failure.becomes_iff.mp hbecomes
      rw [execute_of_waits hw, waitThen_of_error hwaited]

theorem outcome_of_invoked (hinvoke : isFatal (h.invoke step.method step.args s).1 = false)
    (haction : ∀ expected x, step.action ≠ .compare expected x)
    (hwaits : ∀ timeout, step.Waits h s timeout → (step.waited h s timeout).1 = .ok ()) :
    step.Outcome h s (h.invoke step.method step.args s).1 := by
  rcases isFatal_eq_false_iff.mp hinvoke with ⟨v, hv⟩ | ⟨d, he, hd⟩
  · rw [hv]
    exact .value hv (fun expected x hc => absurd hc (haction expected x)) hwaits
  · rw [he]
    exact .failure he hd hwaits

theorem outcome_of_compared {expected : String} {x : Expectation}
    (haction : step.action = .compare expected x)
    (hinvoke : isFatal (h.invoke step.method step.args s).1 = false) :
    step.Outcome h s ((h.invoke step.method step.args s).1.bind (x.check · expected)) := by
  have hwaits : ∀ timeout, step.Waits h s timeout → (step.waited h s timeout).1 = .ok () := by
    intro timeout hw
    cases haction.symm.trans hw.1
  rcases isFatal_eq_false_iff.mp hinvoke with ⟨v, hv⟩ | ⟨d, he, hd⟩
  · rw [hv, Except.bind, Expectation.check]
    split
    · next hholds =>
      refine .value hv ?_ hwaits
      intro expected' x' haction'
      cases haction.symm.trans haction'
      exact hholds
    · next hholds => exact .complaint hv haction (Bool.eq_false_iff.mpr hholds)
  · rw [he]
    exact .failure he hd hwaits

theorem outcome_of_waited (hw : step.Waits h s timeout) :
    step.Outcome h s (waitThen h timeout (h.invoke step.method step.args s).1
      (h.invoke step.method step.args s).2).1 := by
  cases hwaited : (step.waited h s timeout).1 with
  | ok =>
      rw [waitThen_of_ok hwaited]
      refine outcome_of_invoked hw.2 ?_ ?_
      · intro expected x hc
        cases hw.1.symm.trans hc
      · intro timeout' hw'
        cases hw.1.symm.trans hw'.1
        exact hwaited
  | error e =>
      rw [waitThen_of_error hwaited]
      cases hd : e.isDomain with
      | true =>
          rw [Failure.ofCall_of_isDomain hd]
          exact .waitFailure hw hwaited hd
      | false => exact .waitFatal hw hwaited (Failure.becomes_iff.mpr ⟨hd, rfl⟩)

/-- What a step comes to is one of its outcomes. -/
theorem outcome_execute (h : Handle σ) (step : Step) (s : σ) :
    step.Outcome h s (step.execute h s).1 := by
  cases hfatal : isFatal (h.invoke step.method step.args s).1 with
  | true =>
      obtain ⟨e, he, hd⟩ := isFatal_iff.mp hfatal
      rw [execute_of_fatal he hd]
      exact .fatal he (Failure.becomes_iff.mpr ⟨hd, rfl⟩)
  | false =>
      cases haction : step.action with
      | invoke =>
          rw [execute_of_invoke haction hfatal]
          refine outcome_of_invoked hfatal ?_ ?_
          · intro expected x hc
            cases haction.symm.trans hc
          · intro timeout hw
            cases haction.symm.trans hw.1
      | compare expected x =>
          rw [execute_of_compare haction hfatal]
          exact outcome_of_compared haction hfatal
      | invokeAndWait timeout =>
          rw [execute_of_waits ⟨haction, hfatal⟩]
          exact outcome_of_waited ⟨haction, hfatal⟩

theorem execute_eq_iff {r : Except Failure Value} :
    (step.execute h s).1 = r ↔ step.Outcome h s r := by
  constructor
  · rintro rfl
    exact outcome_execute h step s
  · exact Outcome.eq_execute

/-! ## The calls -/

theorem execute_traced_of_waits (hw : step.Waits h s timeout) (seen : List Call) :
    step.execute h.traced (s, seen) = ((step.execute h s).1, (step.waited h s timeout).2,
      seen ++ [.invoke step.method step.args, .await timeout]) := by
  have hcalls : step.calls h s = [.invoke step.method step.args, .await timeout] := by
    rw [calls, callsAfter, hw.1, hw.2]
    rfl
  have hstate : (step.execute h s).2 = (step.waited h s timeout).2 := by
    rw [execute_of_waits hw, waitThen_state]
    rfl
  rw [execute_traced, hcalls, hstate]

theorem execute_traced_of_not_waits (hno : ∀ timeout, ¬ step.Waits h s timeout)
    (seen : List Call) :
    step.execute h.traced (s, seen) = ((step.execute h s).1, (h.invoke step.method step.args s).2,
      seen ++ [.invoke step.method step.args]) := by
  have hstate : (step.execute h s).2 = (h.invoke step.method step.args s).2 := by
    cases hfatal : isFatal (h.invoke step.method step.args s).1 with
    | true =>
        obtain ⟨e, he, hd⟩ := isFatal_iff.mp hfatal
        rw [execute_of_fatal he hd]
    | false => exact execute_state h step s fun timeout ha => hno timeout ⟨ha, hfatal⟩
  have hcalls : step.calls h s = [.invoke step.method step.args] := by
    rw [calls, callsAfter]
    split
    · next timeout ha =>
      rw [if_pos (Bool.not_eq_false _ ▸ fun hf => hno timeout ⟨ha, hf⟩)]
    · rfl
  rw [execute_traced, hcalls, hstate]

/-- On any handle, in any state: a step that waits makes its invocation and then the wait, with its
own time, and leaves what the wait leaves; any other step makes its invocation and no other call,
and leaves what that leaves.  It comes to one of its outcomes and to no other thing: to no value but
the one of its invocation, and to no failure but one of the page or a fatal invocation. -/
theorem execute_settles (h : Handle σ) (step : Step) (s : σ) :
    (∀ timeout, step.Waits h s timeout → ∀ seen,
      step.execute h.traced (s, seen) = ((step.execute h s).1, (step.waited h s timeout).2,
        seen ++ [.invoke step.method step.args, .await timeout])) ∧
    ((∀ timeout, ¬ step.Waits h s timeout) → ∀ seen,
      step.execute h.traced (s, seen) =
        ((step.execute h s).1, (h.invoke step.method step.args s).2,
          seen ++ [.invoke step.method step.args])) ∧
    (∀ r, (step.execute h s).1 = r ↔ step.Outcome h s r) ∧
    (∀ v, (step.execute h s).1 = .ok v → (h.invoke step.method step.args s).1 = .ok v) ∧
    (∀ e, (step.execute h s).1 = .error e →
      e.isDomain = true ∨ ∃ m as reason, e = .fatalInvocation m as reason) := by
  refine ⟨fun timeout hw => execute_traced_of_waits hw, execute_traced_of_not_waits,
    fun r => execute_eq_iff, ?_, fun e => execute_fails h step s⟩
  intro v hv
  cases execute_eq_iff.mp hv with
  | value hinvoke _ _ => exact hinvoke

/-- A wait that fails as no page does is told as a fatal invocation of the method that waits. -/
example :
    let handle : Handle Nat :=
      { location := fun _ => none
        navigate := fun _ s => (.ok (), s)
        await := fun _ s => (.error (.internal "gone"), s + 1)
        invoke := fun _ _ s => (.error (.elementNotFound "go"), s + 1) }
    (⟨"clickAndWait", "click", ["go"], .invokeAndWait "30000"⟩ : Step).execute handle 0 =
      (.error (.fatalInvocation "waitForPageToLoad" ["30000"] "Internal error: gone"), 2) := by
  decide

end Step

end TableTest
