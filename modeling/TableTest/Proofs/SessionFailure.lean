/-
`TableTest.Proofs.SessionFailure` — what a call that fails leaves behind

A call goes through several checks before it does anything: how the locator is written, whether
there is such an element, of what kind it is, whether it can be seen and edited, whether there is
such an option or such a page.  A failure at any of them leaves the session as it was.  Only
going back begins with a change: it takes the latest page off the history before it looks for it.
-/
import TableTest.Proofs.SessionChange

namespace TableTest.Session

variable {site : Site} {s s' : Session}

/-! ## Invocations -/

theorem whole_invoke (site : Site) {method : String} {args : List String}
    (h : ¬ (method = "goBack" ∧ args = [])) : (invoke site method args).Whole := by
  unfold invoke
  cases hc : Command.ofCall? method args with
  | none => exact Procedure.whole_reading _
  | some command =>
      cases command with
      | query q => exact Procedure.whole_reading _
      | action a =>
          have ha : a ≠ .goBack := by
            rintro rfl
            exact h (ofCall?_goBack hc)
          exact (whole_perform site ha).bind_pure Value.void

/-! ## Calls -/

/-- How a call ends. -/
def outcome (site : Site) (s : Session) : Call → Except Failure Unit
  | .invoke method args => (invoke site method args s).1.map fun _ => ()
  | .navigate url => (navigate site url s).1
  | .await timeout => ((handle site).await timeout s).1

/-- A call that fails leaves the session as it was, if it is not going back. -/
theorem after_of_error {call : Call} {e : Failure} (hcall : call ≠ .invoke "goBack" [])
    (h : s.outcome site call = .error e) : s.after site call = s := by
  cases call with
  | invoke method args =>
      have hne : ¬ (method = "goBack" ∧ args = []) := by
        rintro ⟨rfl, rfl⟩
        exact hcall rfl
      have herr : (invoke site method args s).1 = .error e := Except.map_error_iff.mp h
      exact whole_invoke site hne s e _ (Prod.ext herr rfl)
  | navigate url => exact whole_load site url s e _ (Prod.ext h rfl)
  | await timeout => rfl

/-- Going back, if it fails, leaves the session as it was but for the latest page of its
history. -/
theorem after_goBack_of_error {e : Failure}
    (h : s.outcome site (.invoke "goBack" []) = .error e) :
    s.after site (.invoke "goBack" []) = { s with history := s.history.tail } := by
  have herr : (invoke site "goBack" [] s).1 = .error e := Except.map_error_iff.mp h
  have hback : goBack site s = (.error e, s.after site (.invoke "goBack" [])) :=
    Procedure.bind_pure_error_iff.mp (Prod.ext herr rfl)
  rcases goBack_error hback with ⟨hh, hs⟩ | ⟨latest, rest, e', hh, hl, hs⟩
  · rw [hs]
    cases s
    cases hh
    rfl
  · rw [hs, hh]
    rfl

/-- A call that fails leaves the session where it was, with its elements and its cookies, in
whatever state it was.  It leaves the history too, unless it was going back, which may have given
up the latest page. -/
theorem failure_keeps_session (site : Site) (s : Session) (call : Call) {e : Failure}
    (hfails : s.outcome site call = .error e) :
    (s.after site call).location = s.location ∧
      (s.after site call).elements = s.elements ∧
      (s.after site call).cookies = s.cookies ∧
      (call ≠ .invoke "goBack" [] → (s.after site call).history = s.history) ∧
      (call = .invoke "goBack" [] → (s.after site call).history = s.history.tail) := by
  by_cases hcall : call = .invoke "goBack" []
  · subst hcall
    rw [after_goBack_of_error hfails]
    exact ⟨rfl, rfl, rfl, fun hne => absurd rfl hne, fun _ => rfl⟩
  · rw [after_of_error hcall hfails]
    exact ⟨rfl, rfl, rfl, fun _ => rfl, fun hback => absurd hback hcall⟩

/-- A link that leads nowhere: clicking it loses neither what has been typed nor a cookie. -/
theorem failure_keeps_session_dead_link :
    let site : Site :=
      { pages := [{ url := "/start" },
          { url := "/form", elements :=
              [{ id := some "q", kind := .input },
               { id := some "next", kind := .link, href := some "/lost" }] }] }
    let s := reached site [.navigate "/start", .navigate "/form", .invoke "type" ["q", "typed"],
      .invoke "createCookie" ["name=value", ""]]
    let call : Call := .invoke "click" ["next"]
    (∃ e, s.outcome site call = .error e) ∧
      (s.after site call).location = some "/form" ∧
      (s.after site call).elements.map (·.value) = ["typed", ""] ∧
      (s.after site call).cookies = ⟨[("name", "value")]⟩ ∧
      (s.after site call).history = ["/start"] := by
  intro site s call
  have hlost : (s.outcome site call).toOption = none := by decide +kernel
  cases hfails : s.outcome site call with
  | ok _ =>
      rw [hfails] at hlost
      cases hlost
  | error e =>
      obtain ⟨hl, he, hc, hh, -⟩ := failure_keeps_session site s call hfails
      refine ⟨⟨e, rfl⟩, ?_, ?_, ?_, ?_⟩
      · rw [hl]
        decide +kernel
      · rw [he]
        decide +kernel
      · rw [hc]
        decide +kernel
      · rw [hh (by decide)]
        decide +kernel

end TableTest.Session
