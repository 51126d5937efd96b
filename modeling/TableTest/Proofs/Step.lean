/-
`TableTest.Proofs.Step` — what executing a step does to a handle

A step makes one invocation and, if it waits, at most one wait after it.  Keeping the calls of
a handle changes neither the result of a step nor the state it leaves, and adds the calls of
the step in their order.  A step fails with a domain failure or a fatal invocation, whatever
the failures of the handle are.
-/
import TableTest.Proofs.Failure

namespace TableTest.Step

variable {σ : Type} {h : Handle σ} {step : Step} {s : σ}

/-! ## The calls of a step -/

/-- The call that follows an invocation with that result: a step that waits does so unless the
invocation was fatal. -/
def callsAfter (step : Step) (result : Except Failure Value) : List Call :=
  match step.action with
  | .invokeAndWait timeout => if isFatal result then [] else [.await timeout]
  | _ => []

/-- The calls that a step makes on a handle in a state. -/
def calls (h : Handle σ) (step : Step) (s : σ) : List Call :=
  .invoke step.method step.args :: step.callsAfter (h.invoke step.method step.args s).1

theorem navigate_not_mem_calls (h : Handle σ) (step : Step) (s : σ) (url : String) :
    Call.navigate url ∉ step.calls h s := by
  unfold calls callsAfter
  split
  · split <;> simp
  · simp

theorem call_traced (h : Handle σ) (step : Step) (s : σ) (cs : List Call) :
    step.call h.traced (s, cs) =
      ((step.call h s).1, (step.call h s).2, cs ++ [.invoke step.method step.args]) := rfl

theorem waitThen_traced (h : Handle σ) (timeout : String) (result : Except Failure Value)
    (s : σ) (cs : List Call) :
    waitThen h.traced timeout result (s, cs) =
      ((waitThen h timeout result s).1, (waitThen h timeout result s).2,
        cs ++ [.await timeout]) := by
  rcases hw : h.await timeout s with ⟨_ | ⟨⟨⟩⟩, s'⟩ <;>
    simp [waitThen, Handle.traced, Handle.keep, hw]

/-- A step that does not wait leaves what its invocation leaves. -/
theorem execute_state (h : Handle σ) (step : Step) (s : σ)
    (hwait : ∀ timeout, step.action ≠ .invokeAndWait timeout) :
    (step.execute h s).2 = (h.invoke step.method step.args s).2 := by
  unfold execute
  cases ha : step.action with
  | invoke | compare _ _ => rfl
  | invokeAndWait timeout => exact absurd ha (hwait timeout)

theorem isFatal_call (h : Handle σ) (step : Step) (s : σ) :
    isFatal (step.call h s).1 = isFatal (h.invoke step.method step.args s).1 := by
  rcases hi : h.invoke step.method step.args s with ⟨_ | _, s'⟩ <;>
    simp [call, hi, isFatal]

theorem execute_traced (h : Handle σ) (step : Step) (s : σ) (cs : List Call) :
    step.execute h.traced (s, cs) =
      ((step.execute h s).1, (step.execute h s).2, cs ++ step.calls h s) := by
  unfold execute calls callsAfter
  rw [call_traced, ← isFatal_call]
  cases step.action with
  | invoke => rfl
  | compare expected expectation => rfl
  | invokeAndWait timeout =>
      rcases step.call h s with ⟨e | v, s'⟩
      · cases he : e.isDomain <;> simp [isFatal, he, waitThen_traced]
      · simp [isFatal, waitThen_traced]

/-! ## One action at a time -/

theorem call_of_not_fatal (hinvoke : isFatal (h.invoke step.method step.args s).1 = false) :
    step.call h s = h.invoke step.method step.args s := by
  unfold call
  rcases hi : h.invoke step.method step.args s with ⟨e | v, t⟩
  · have hd : e.isDomain = true := by simpa [hi, isFatal] using hinvoke
    simp only [Except.mapError_of_error, Failure.ofCall_of_isDomain hd]
  · rfl

/-- A fatal invocation ends the step, whatever it is to do with a result. -/
theorem execute_of_fatal {e : Failure} (hinvoke : (h.invoke step.method step.args s).1 = .error e)
    (hd : e.isDomain = false) :
    step.execute h s =
      (.error (.ofCall step.method step.args e), (h.invoke step.method step.args s).2) := by
  have hcall : step.call h s =
      (.error (.ofCall step.method step.args e), (h.invoke step.method step.args s).2) := by
    show ((h.invoke step.method step.args s).1.mapError _, _) = _
    rw [hinvoke]
    rfl
  unfold execute
  rw [hcall]
  cases step.action with
  | invoke | compare _ _ => rfl
  | invokeAndWait timeout => simp [hd]

theorem execute_of_invoke (haction : step.action = .invoke)
    (hinvoke : isFatal (h.invoke step.method step.args s).1 = false) :
    (step.execute h s).1 = (h.invoke step.method step.args s).1 := by
  unfold execute
  rw [haction, call_of_not_fatal hinvoke]

theorem execute_of_compare {expected : String} {x : Expectation}
    (haction : step.action = .compare expected x)
    (hinvoke : isFatal (h.invoke step.method step.args s).1 = false) :
    (step.execute h s).1 = (h.invoke step.method step.args s).1.bind (x.check · expected) := by
  unfold execute
  rw [haction, call_of_not_fatal hinvoke]

/-- The step is to wait for a time, and its invocation was not fatal. -/
def Waits (h : Handle σ) (step : Step) (s : σ) (timeout : String) : Prop :=
  step.action = .invokeAndWait timeout ∧ isFatal (h.invoke step.method step.args s).1 = false

theorem execute_of_waits {timeout : String} (hw : step.Waits h s timeout) :
    step.execute h s = waitThen h timeout (h.invoke step.method step.args s).1
      (h.invoke step.method step.args s).2 := by
  unfold execute
  rw [hw.1, call_of_not_fatal hw.2]
  dsimp only
  cases hr : (h.invoke step.method step.args s).1 with
  | ok v => rfl
  | error e =>
      have hd : e.isDomain = true := by simpa [hr, isFatal] using hw.2
      simp [hd]

/-! ## The wait -/

theorem waitThen_of_ok {timeout : String} {result : Except Failure Value}
    (hw : (h.await timeout s).1 = .ok ()) :
    waitThen h timeout result s = (result, (h.await timeout s).2) := by
  unfold waitThen
  rcases ha : h.await timeout s with ⟨r, t⟩
  rw [ha] at hw
  subst hw
  rfl

theorem waitThen_of_error {timeout : String} {result : Except Failure Value} {e : Failure}
    (hw : (h.await timeout s).1 = .error e) :
    waitThen h timeout result s =
      (.error (.ofCall waitMethod [timeout] e), (h.await timeout s).2) := by
  unfold waitThen
  rcases ha : h.await timeout s with ⟨r, t⟩
  rw [ha] at hw
  subst hw
  rfl

theorem waitThen_state (h : Handle σ) (timeout : String) (result : Except Failure Value) (s : σ) :
    (waitThen h timeout result s).2 = (h.await timeout s).2 := by
  cases hw : (h.await timeout s).1 with
  | ok => rw [waitThen_of_ok hw]
  | error e => rw [waitThen_of_error hw]

/-! ## How a step fails -/

theorem waitThen_fails (h : Handle σ) (timeout : String) {result : Except Failure Value} (s : σ)
    {e : Failure} (he : (waitThen h timeout result s).1 = .error e) :
    result = .error e ∨ e.isDomain = true ∨ ∃ m as r, e = .fatalInvocation m as r := by
  unfold waitThen at he
  split at he
  · exact Or.inl he
  · cases he
    exact Or.inr (Failure.ofCall_cases _ _ _)

theorem check_fails {v : Value} {expected : String} {x : Expectation} {e : Failure}
    (he : x.check v expected = .error e) : e.isDomain = true := by
  unfold Expectation.check at he
  split at he <;> cases he
  rfl

/-- A step fails with a domain failure or with a fatal invocation. -/
theorem execute_fails (h : Handle σ) (step : Step) (s : σ) {e : Failure}
    (he : (step.execute h s).1 = .error e) :
    e.isDomain = true ∨ ∃ m as r, e = .fatalInvocation m as r := by
  cases hfatal : isFatal (h.invoke step.method step.args s).1 with
  | true =>
      obtain ⟨e', he', hd⟩ := isFatal_iff.mp hfatal
      rw [execute_of_fatal he' hd] at he
      cases he
      exact Failure.ofCall_cases _ _ _
  | false =>
      have hinvoke : (h.invoke step.method step.args s).1 = .error e → e.isDomain = true := by
        intro hr
        simpa [hr, isFatal] using hfatal
      cases ha : step.action with
      | invoke =>
          rw [execute_of_invoke ha hfatal] at he
          exact Or.inl (hinvoke he)
      | compare expected x =>
          rw [execute_of_compare ha hfatal] at he
          rcases Except.bind_error_iff.mp he with he | ⟨v, -, hv⟩
          · exact Or.inl (hinvoke he)
          · exact Or.inl (check_fails hv)
      | invokeAndWait timeout =>
          rw [execute_of_waits ⟨ha, hfatal⟩] at he
          rcases waitThen_fails h timeout _ he with hr | hr
          · exact Or.inl (hinvoke hr)
          · exact hr

/-! ## When a step is fatal -/

/-- An invocation that is refused as fatal is what the step comes to, whatever it does with a
result: there is none to compare, and it does not wait. -/
theorem execute_of_fatalInvocation (h : Handle σ) (step : Step) (s : σ) {method reason : String}
    {args : List String} (hinvoke : (h.invoke step.method step.args s).1 =
      .error (.fatalInvocation method args reason)) :
    (step.execute h s).1 = .error (.fatalInvocation method args reason) := by
  rw [execute_of_fatal hinvoke rfl]
  rfl

theorem isFatal_check (v : Value) (expected : String) (x : Expectation) :
    isFatal (x.check v expected) = false := by
  unfold Expectation.check
  split <;> rfl

theorem isFatal_waitThen (h : Handle σ) (timeout : String) {result : Except Failure Value} (s : σ)
    (hresult : isFatal result = false) (hawait : isFatal (h.await timeout s).1 = false) :
    isFatal (waitThen h timeout result s).1 = false := by
  unfold waitThen
  split
  · exact hresult
  · next e _ he =>
    rw [he] at hawait
    simpa [isFatal] using hawait

/-- A step on a handle that is never fatal is not fatal. -/
theorem isFatal_execute (h : Handle σ) (step : Step) (s : σ)
    (hinvoke : isFatal (h.invoke step.method step.args s).1 = false)
    (hawait : ∀ timeout t, isFatal (h.await timeout t).1 = false) :
    isFatal (step.execute h s).1 = false := by
  cases ha : step.action with
  | invoke =>
      rw [execute_of_invoke ha hinvoke]
      exact hinvoke
  | compare expected x =>
      rw [execute_of_compare ha hinvoke]
      exact isFatal_bind hinvoke fun v => isFatal_check v expected x
  | invokeAndWait timeout =>
      rw [execute_of_waits ⟨ha, hinvoke⟩]
      exact isFatal_waitThen h timeout _ hinvoke (hawait timeout _)

end TableTest.Step
