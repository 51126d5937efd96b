/-
`TableTest.Proofs.Failure` — results that may be failures

How a result made by `bind`, `map` or `mapError` comes apart, and what a call on a handle may
do to a failure: a domain failure is handed on as it is, and a failure that is not one stays
none.
-/
import TableTest.Step

namespace Except

instance decidableEq {ε α : Type} [DecidableEq ε] [DecidableEq α] : DecidableEq (Except ε α)
  | .ok a, .ok b => decidable_of_iff (a = b) ⟨congrArg ok, ok.inj⟩
  | .error d, .error e => decidable_of_iff (d = e) ⟨congrArg error, error.inj⟩
  | .ok _, .error _ | .error _, .ok _ => isFalse nofun

/-! ## Taking a result apart -/

variable {ε δ α β : Type} {r : Except ε α}

theorem bind_ok_iff {next : α → Except ε β} {v : β} :
    r.bind next = .ok v ↔ ∃ a, r = .ok a ∧ next a = .ok v := by
  cases r <;> simp [Except.bind]

theorem bind_error_iff {next : α → Except ε β} {e : ε} :
    r.bind next = .error e ↔ r = .error e ∨ ∃ a, r = .ok a ∧ next a = .error e := by
  cases r <;> simp [Except.bind]

theorem map_ok_iff {g : α → β} {v : β} : r.map g = .ok v ↔ ∃ a, r = .ok a ∧ g a = v := by
  cases r <;> simp [Except.map]

theorem map_error_iff {g : α → β} {e : ε} : r.map g = .error e ↔ r = .error e := by
  cases r <;> simp [Except.map]

@[simp] theorem mapError_of_ok (g : ε → δ) (v : α) : (ok v).mapError g = ok v := rfl

@[simp] theorem mapError_of_error (g : ε → δ) (e : ε) :
    (error e : Except ε α).mapError g = error (g e) := rfl

theorem mapError_ok_iff {g : ε → δ} {v : α} : r.mapError g = .ok v ↔ r = .ok v := by
  cases r <;> simp

theorem mapError_error_iff {g : ε → δ} {d : δ} :
    r.mapError g = .error d ↔ ∃ e, r = .error e ∧ g e = d := by
  cases r <;> simp

end Except

namespace TableTest

/-! ## Failures of calls -/

/-- Whether a result is a failure that is not one of the page under test. -/
def isFatal {α : Type} : Except Failure α → Bool
  | .ok _ => false
  | .error e => !e.isDomain

section

variable {α β : Type} {r : Except Failure α}

theorem isFatal_map (g : α → β) : isFatal (r.map g) = isFatal r := by
  cases r <;> rfl

theorem isFatal_bind {next : α → Except Failure β} (hr : isFatal r = false)
    (hnext : ∀ a, isFatal (next a) = false) : isFatal (r.bind next) = false := by
  cases r with
  | error e => exact hr
  | ok a => exact hnext a

theorem isFatal_iff : isFatal r = true ↔ ∃ e, r = .error e ∧ e.isDomain = false := by
  cases r <;> simp [isFatal]

theorem isFatal_eq_false_iff :
    isFatal r = false ↔ (∃ a, r = .ok a) ∨ ∃ e, r = .error e ∧ e.isDomain = true := by
  cases r <;> simp [isFatal]

end

namespace Failure

theorem ofCall_of_isDomain {method : String} {args : List String} {e : Failure}
    (h : e.isDomain = true) : ofCall method args e = e := by
  cases e with
  | assertionFailed _ | elementNotFound _ | commandFailed _ _ => rfl
  | _ => cases h

theorem ofCall_fatal (method : String) (args : List String) {e : Failure}
    (h : e.isDomain = false) : ∃ m as r, ofCall method args e = .fatalInvocation m as r := by
  cases e with
  | assertionFailed _ | elementNotFound _ | commandFailed _ _ => cases h
  | _ => exact ⟨_, _, _, rfl⟩

@[simp] theorem isDomain_ofCall (method : String) (args : List String) (e : Failure) :
    (ofCall method args e).isDomain = e.isDomain := by
  cases h : e.isDomain with
  | true => rw [ofCall_of_isDomain h, h]
  | false =>
      obtain ⟨m, as, r, hr⟩ := ofCall_fatal method args h
      rw [hr]
      rfl

/-- What is handed on by a call is a domain failure or a fatal invocation. -/
theorem ofCall_cases (method : String) (args : List String) (e : Failure) :
    (ofCall method args e).isDomain = true ∨
      ∃ m as r, ofCall method args e = .fatalInvocation m as r := by
  cases h : e.isDomain with
  | true => exact Or.inl (by rw [isDomain_ofCall, h])
  | false => exact Or.inr (ofCall_fatal method args h)

end Failure

end TableTest
