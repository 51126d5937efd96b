/-
`TableTest.Proofs.CookieBlindness` — only the calls for cookies know about cookies

Three methods set cookies and three ask for them.  Every other call comes to the same whatever the
cookies are, and leaves them; those that set cookies leave all else, and what they make of the
cookies depends on these alone.
-/
import TableTest.Proofs.Dictionary
import TableTest.Proofs.SessionChange

namespace TableTest

/-! ## Calls for cookies -/

/-- The call is one for a method that sets or deletes cookies. -/
def Call.setsCookies : Call → Bool
  | .invoke method _ =>
    ["createCookie", "deleteCookie", "deleteAllVisibleCookies"].contains method
  | _ => false

/-- The call is one for a method that asks for cookies. -/
def Call.asksCookies : Call → Bool
  | .invoke method _ => ["getCookie", "getCookieByName", "isCookiePresent"].contains method
  | _ => false

namespace Session

/-- The query asks for cookies. -/
def Query.asksCookies : Query → Bool
  | .cookies | .cookie _ | .cookiePresent _ => true
  | _ => false

/-- The command is an action that sets or deletes cookies. -/
def Command.setsCookies : Command → Bool
  | .action a => a.setsCookies
  | .query _ => false

/-- The command is a query that asks for cookies. -/
def Command.asksCookies : Command → Bool
  | .action _ => false
  | .query q => q.asksCookies

/-- What an invocation has to do with cookies is seen in its method. -/
theorem cookies_of_ofCall? {method : String} {args : List String} {command : Command}
    (h : Command.ofCall? method args = some command) :
    (Call.invoke method args).setsCookies = command.setsCookies ∧
      (Call.invoke method args).asksCookies = command.asksCookies := by
  match args with
  | [] =>
      change Command.nullary? method = _ at h
      unfold Command.nullary? at h
      split at h <;> cases h <;> exact ⟨rfl, rfl⟩
  | [arg] =>
      change Command.unary? method arg = _ at h
      unfold Command.unary? at h
      split at h <;> cases h <;> exact ⟨rfl, rfl⟩
  | [first, second] =>
      change Command.binary? method first second = _ at h
      unfold Command.binary? at h
      split at h <;> cases h <;> exact ⟨rfl, rfl⟩
  | _ :: _ :: _ :: _ => cases h

variable (site : Site) {cookies : Dictionary String}

open Procedure

theorem ask_withCookies {q : Query} (hq : q.asksCookies = false) (s : Session) :
    (s.withCookies cookies).ask site q = s.ask site q := by
  cases q with
  | cookies | cookie _ | cookiePresent _ => cases hq
  | _ => rfl

/-! ## Calls that overlook the cookies -/

/-- What a call comes to; going to a page and waiting for it hand nothing back. -/
def reply (site : Site) (s : Session) : Call → Except Failure Value
  | .invoke method args => (invoke site method args s).1
  | .navigate url => (navigate site url s).1.map fun _ => .void
  | .await timeout => ((handle site).await timeout s).1.map fun _ => .void

variable {call : Call} (s : Session)

theorem reply_withCookies (hsets : call.setsCookies = false) (hasks : call.asksCookies = false) :
    (s.withCookies cookies).reply site call = s.reply site call := by
  cases call with
  | navigate url =>
      exact congrArg (fun answer => answer.1.map fun _ => Value.void) (overlooks_load site url s)
  | await timeout => rfl
  | invoke method args =>
      have hinvoke : (invoke site method args).Overlooks cookies := by
        unfold invoke
        rcases hc : Command.ofCall? method args with _ | ⟨q⟩ | ⟨a⟩
        · exact overlooks_reading fun s => rfl
        · have hq : q.asksCookies = false := (cookies_of_ofCall? hc).2.symm.trans hasks
          exact overlooks_reading (ask_withCookies site hq)
        · have ha : a.setsCookies = false := (cookies_of_ofCall? hc).1.symm.trans hsets
          exact (overlooks_perform site ha cookies).bind fun _ => overlooks_pure Value.void
      show (invoke site method args (s.withCookies cookies)).1 = (invoke site method args s).1
      rw [hinvoke]

theorem after_withCookies (hsets : call.setsCookies = false) :
    (s.withCookies cookies).after site call = (s.after site call).withCookies cookies := by
  cases call with
  | navigate url => exact congrArg Prod.snd (overlooks_load site url s)
  | await timeout => rfl
  | invoke method args =>
      show (invoke site method args (s.withCookies cookies)).2 =
        (invoke site method args s).2.withCookies cookies
      unfold invoke
      rcases hc : Command.ofCall? method args with _ | ⟨q⟩ | ⟨a⟩
      · rfl
      · rfl
      · have ha : a.setsCookies = false := (cookies_of_ofCall? hc).1.symm.trans hsets
        show ((perform site a >>= fun _ => pure Value.void) (s.withCookies cookies)).2 =
          ((perform site a >>= fun _ => pure Value.void) s).2.withCookies cookies
        rw [bind_pure_state, bind_pure_state, overlooks_perform site ha cookies]

/-! ## Calls that set cookies -/

/-- The cookies after an action. -/
def Action.edit : Action → Dictionary String → Dictionary String
  | .clearCookies, _ => {}
  | .deleteCookie name, cookies => cookies.erase name
  | .createCookie pair, cookies =>
    match Text.splitFirst? '=' pair with
    | some (name, value) => cookies.insert (Text.trim name) (Text.trim value)
    | none => cookies
  | _, cookies => cookies

/-- The cookies after a call. -/
def cookiesAfter (call : Call) (cookies : Dictionary String) : Dictionary String :=
  match call with
  | .invoke method args =>
    match Command.ofCall? method args with
    | some (.action a) => a.edit cookies
    | _ => cookies
  | _ => cookies

theorem cookiesAfter_invoke {method : String} {args : List String} :
    cookiesAfter (.invoke method args) cookies =
      match Command.ofCall? method args with
      | some (.action a) => a.edit cookies
      | _ => cookies := rfl

theorem perform_setter {a : Action} (ha : a.setsCookies = true) :
    (perform site a s).2 = s.withCookies (a.edit s.cookies) := by
  cases a with
  | clearCookies | deleteCookie _ => rfl
  | createCookie pair =>
      show (createCookie pair s).2 = _
      rcases hp : Text.splitFirst? '=' pair with _ | ⟨name, value⟩ <;>
        simp only [createCookie, Action.edit, hp] <;> rfl
  | _ => cases ha

/-- A call that sets cookies leaves all else. -/
theorem after_setter (hsets : call.setsCookies = true) :
    s.after site call = s.withCookies (cookiesAfter call s.cookies) := by
  cases call with
  | navigate url | await timeout => cases hsets
  | invoke method args =>
      show (invoke site method args s).2 = _
      rw [cookiesAfter_invoke]
      unfold invoke
      rcases hc : Command.ofCall? method args with _ | ⟨q⟩ | ⟨a⟩
      · rfl
      · rfl
      · have ha : a.setsCookies = true := (cookies_of_ofCall? hc).1.symm.trans hsets
        show ((perform site a >>= fun _ => pure Value.void) s).2 = _
        rw [bind_pure_state]
        exact perform_setter site s ha

theorem cookiesAfter_of_other (hsets : call.setsCookies = false) :
    cookiesAfter call cookies = cookies := by
  cases call with
  | navigate url | await timeout => rfl
  | invoke method args =>
      rw [cookiesAfter_invoke]
      rcases hc : Command.ofCall? method args with _ | ⟨q⟩ | ⟨a⟩
      · rfl
      · rfl
      · have ha : a.setsCookies = false := (cookies_of_ofCall? hc).1.symm.trans hsets
        cases a with
        | clearCookies | createCookie _ | deleteCookie _ => cases ha
        | _ => rfl

/-- What a call makes of the cookies depends on nothing else. -/
theorem cookies_after (call : Call) :
    (s.after site call).cookies = cookiesAfter call s.cookies := by
  cases hsets : call.setsCookies with
  | true =>
      rw [after_setter site s hsets]
      rfl
  | false =>
      rw [cookiesAfter_of_other hsets]
      have hkept := @after_withCookies site s.cookies call s hsets
      change s.after site call = _ at hkept
      rw [hkept]
      rfl

end Session

end TableTest
