/-
`TableTest.Proofs.Execution` — executing the steps of a script

Steps are executed one after the other until one fails.  `Progress` says how far that goes
without mentioning the loop that does it: every step before the last one executed succeeds in
the state that the steps before it leave, and the last one fails or there are no more.  There
is exactly one such point, and the loop ends there, in the state and with the calls of exactly
the steps up to it.
-/
import TableTest.Case
import TableTest.Proofs.Step

namespace TableTest

variable {σ : Type}

/-! ## Steps one after the other -/

namespace Step

/-- The state after steps have been executed in their order, whatever they come to. -/
def after (h : Handle σ) (steps : List Step) (s : σ) : σ :=
  steps.foldl (fun s step => (step.execute h s).2) s

/-- What the step at a position comes to once the steps before it have been executed. -/
def resultAt (h : Handle σ) (steps : List Step) (s : σ) (i : Nat) :
    Option (Except Failure Value) :=
  steps[i]?.map fun step => (step.execute h (after h (steps.take i) s)).1

/-- The calls of steps executed in their order. -/
def callsOf (h : Handle σ) : List Step → σ → List Call
  | [], _ => []
  | step :: steps, s => step.calls h s ++ callsOf h steps (step.execute h s).2

theorem after_cons (h : Handle σ) (step : Step) (steps : List Step) (s : σ) :
    after h (step :: steps) s = after h steps (step.execute h s).2 := rfl

theorem after_append (h : Handle σ) (first rest : List Step) (s : σ) :
    after h (first ++ rest) s = after h rest (after h first s) := List.foldl_append

theorem resultAt_zero (h : Handle σ) (step : Step) (steps : List Step) (s : σ) :
    resultAt h (step :: steps) s 0 = some (step.execute h s).1 := rfl

theorem after_traced (h : Handle σ) : ∀ (steps : List Step) (s : σ) (cs : List Call),
    after h.traced steps (s, cs) = (after h steps s, cs ++ callsOf h steps s)
  | [], s, cs => by simp [after, callsOf]
  | step :: steps, s, cs => by
      rw [after_cons, execute_traced, after_traced h steps, after_cons, callsOf,
        List.append_assoc]

theorem resultAt_traced (h : Handle σ) (steps : List Step) (s : σ) (cs : List Call) (i : Nat) :
    resultAt h.traced steps (s, cs) i = resultAt h steps s i := by
  simp [resultAt, after_traced, execute_traced]

theorem resultAt_fails {h : Handle σ} {steps : List Step} {s : σ} {i : Nat} {e : Failure}
    (he : resultAt h steps s i = some (.error e)) :
    e.isDomain = true ∨ ∃ m as r, e = .fatalInvocation m as r := by
  obtain ⟨step, -, hstep⟩ := Option.map_eq_some_iff.mp he
  exact execute_fails h step _ hstep

theorem navigate_not_mem_callsOf (h : Handle σ) (url : String) :
    ∀ (steps : List Step) (s : σ), Call.navigate url ∉ callsOf h steps s
  | [], _ => List.not_mem_nil
  | step :: steps, s => by
      rw [callsOf, List.mem_append, not_or]
      exact ⟨navigate_not_mem_calls h step s url, navigate_not_mem_callsOf h url steps _⟩

end Step

/-! ## How far an execution goes -/

namespace Case

open Step

/-- `Progress h steps s k f`: from `s`, the steps up to number `k` are executed; `f` is the
failure of that step, if it was the failure that ended the execution. -/
inductive Progress (h : Handle σ) (steps : List Step) (s : σ) : Nat → Option Failure → Prop
  | done : (∀ i < steps.length, ∃ v, resultAt h steps s i = some (.ok v)) →
      Progress h steps s steps.length none
  | upTo {i : Nat} {e : Failure} : (∀ j < i, ∃ v, resultAt h steps s j = some (.ok v)) →
      resultAt h steps s i = some (.error e) → Progress h steps s (i + 1) (some e)

/-- What ends an execution is a domain failure or a fatal invocation. -/
theorem Progress.fails {h : Handle σ} {steps : List Step} {s : σ} {k : Nat} {e : Failure}
    (hp : Progress h steps s k (some e)) :
    e.isDomain = true ∨ ∃ m as r, e = .fatalInvocation m as r := by
  cases hp with
  | upTo _ he => exact resultAt_fails he

theorem Progress.cons {h : Handle σ} {step : Step} {steps : List Step} {s : σ} {v : Value}
    {k : Nat} {f : Option Failure} (hv : (step.execute h s).1 = .ok v)
    (hp : Progress h steps (step.execute h s).2 k f) :
    Progress h (step :: steps) s (k + 1) f := by
  have first : ∃ v, resultAt h (step :: steps) s 0 = some (.ok v) := ⟨v, congrArg some hv⟩
  cases hp with
  | done hall =>
      refine .done fun i hi => ?_
      cases i with
      | zero => exact first
      | succ i => exact hall i (Nat.lt_of_succ_lt_succ hi)
  | upTo hall he =>
      refine .upTo (fun j hj => ?_) he
      cases j with
      | zero => exact first
      | succ j => exact hall j (Nat.lt_of_succ_lt_succ hj)

theorem exists_progress (h : Handle σ) : ∀ (steps : List Step) (s : σ),
    ∃ k f, Progress h steps s k f
  | [], _ => ⟨0, none, .done fun _ hi => absurd hi (Nat.not_lt_zero _)⟩
  | step :: steps, s => by
      cases hv : (step.execute h s).1 with
      | ok v =>
          obtain ⟨k, f, hp⟩ := exists_progress h steps (step.execute h s).2
          exact ⟨k + 1, f, hp.cons hv⟩
      | error e =>
          exact ⟨1, some e, .upTo (fun _ hj => absurd hj (Nat.not_lt_zero _)) (congrArg some hv)⟩

/-! ## The loop goes exactly that far -/

variable {h : Handle σ}

theorem executeAll_cons_ok {step : Step} {s : σ} {v : Value}
    (hv : (step.execute h s).1 = .ok v) (k : Nat) (steps : List Step) :
    executeAll h k (step :: steps) s = executeAll h (k + 1) steps (step.execute h s).2 := by
  rw [executeAll]
  rcases hx : step.execute h s with ⟨r, s'⟩
  rw [hx] at hv
  subst hv
  rfl

theorem executeAll_cons_error {step : Step} {s : σ} {e : Failure}
    (he : (step.execute h s).1 = .error e) (k : Nat) (steps : List Step) :
    executeAll h k (step :: steps) s = (.stopped k step e, (step.execute h s).2) := by
  rw [executeAll]
  rcases hx : step.execute h s with ⟨r, s'⟩
  rw [hx] at he
  subst he
  rfl

theorem executeAll_done (h : Handle σ) : ∀ (steps : List Step) (k : Nat) (s : σ),
    (∀ i < steps.length, ∃ v, resultAt h steps s i = some (.ok v)) →
      executeAll h k steps s = (.allPassed, after h steps s)
  | [], _, _, _ => rfl
  | step :: steps, k, s, hall => by
      obtain ⟨v, hv⟩ := hall 0 (Nat.zero_lt_succ _)
      rw [resultAt_zero, Option.some.injEq] at hv
      rw [executeAll_cons_ok hv, after_cons]
      exact executeAll_done h steps (k + 1) _ fun i hi => hall (i + 1) (Nat.succ_lt_succ hi)

theorem executeAll_upTo (h : Handle σ) {e : Failure} :
    ∀ (steps : List Step) (k i : Nat) (s : σ),
      (∀ j < i, ∃ v, resultAt h steps s j = some (.ok v)) →
      resultAt h steps s i = some (.error e) →
      ∃ step, steps[i]? = some step ∧
        executeAll h k steps s = (.stopped (k + i) step e, after h (steps.take (i + 1)) s)
  | [], _, _, _, _, he => by simp [resultAt] at he
  | step :: steps, k, 0, s, _, he => by
      rw [resultAt_zero, Option.some.injEq] at he
      exact ⟨step, rfl, executeAll_cons_error he k steps⟩
  | step :: steps, k, i + 1, s, hall, he => by
      obtain ⟨v, hv⟩ := hall 0 (Nat.zero_lt_succ _)
      rw [resultAt_zero, Option.some.injEq] at hv
      obtain ⟨last, hlast, rest⟩ := executeAll_upTo h steps (k + 1) i (step.execute h s).2
        (fun j hj => hall (j + 1) (Nat.succ_lt_succ hj)) he
      refine ⟨last, hlast, ?_⟩
      rw [executeAll_cons_ok hv, rest, List.take_succ_cons, after_cons, Nat.add_right_comm,
        Nat.add_assoc]

/-- With its calls kept, an execution ends as it does without, and they are the calls of the
steps that its progress went through. -/
theorem executeAll_traced {steps : List Step} {s : σ} {n : Nat} {f : Option Failure}
    (hp : Progress h steps s n f) (k : Nat) (cs : List Call) :
    executeAll h.traced k steps (s, cs) =
      ((executeAll h k steps s).1, after h (steps.take n) s,
        cs ++ callsOf h (steps.take n) s) := by
  cases hp with
  | done hall =>
      rw [executeAll_done h steps k s hall, List.take_length, ← after_traced]
      exact executeAll_done h.traced steps k (s, cs) fun i hi => by
        rw [resultAt_traced]
        exact hall i hi
  | upTo hall he =>
      obtain ⟨step, hstep, hx⟩ := executeAll_upTo h steps k _ s hall he
      obtain ⟨step', hstep', hx'⟩ := executeAll_upTo h.traced steps k _ (s, cs)
        (fun j hj => by rw [resultAt_traced]; exact hall j hj)
        (by rw [resultAt_traced]; exact he)
      cases hstep.symm.trans hstep'
      rw [hx', hx, after_traced]

/-- An execution leaves the state after the steps that its progress went through. -/
theorem executeAll_state {steps : List Step} {s : σ} {n : Nat} {f : Option Failure}
    (hp : Progress h steps s n f) (k : Nat) :
    (executeAll h k steps s).2 = after h (steps.take n) s := by
  cases hp with
  | done hall => rw [executeAll_done h steps k s hall, List.take_length]
  | upTo hall he =>
      obtain ⟨step, -, hx⟩ := executeAll_upTo h steps k _ s hall he
      rw [hx]

end Case

end TableTest
