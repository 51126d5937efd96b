/-
`TableTest.Proofs.Orderly` — actions look first and change last

An action looks at the session, fails if something stands in its way, and changes the session at the
end.  So a failing action has done nothing, it fails as the page under test does, and the cookies
make no difference to it.  Two sorts of actions are exceptions: going back changes the history
before it looks for the page, and the actions that set cookies have no other use for the session.
These too fail as the page does: the one failure of a session that is not of this sort, that of
going to an address, is told as one by every command that goes to a page.  So a command that the
session knows is never fatal, and an invocation is fatal exactly if the session cannot read it.
-/
import TableTest.Proofs.Action
import TableTest.Proofs.DomainFailure

namespace TableTest.Session

variable (site : Site)

open Procedure

/-! ## Going to a page -/

theorem overlooks_load {cookies : Dictionary String} (target : String) :
    (load site target).Overlooks cookies := by
  refine (overlooks_reading fun s => rfl).bind ?_
  intro (url, page)
  exact overlooks_change fun s => rfl

-- `load` itself is not orderly: that there is no such page is no failure of the page under test
theorem orderly_openFor (command target : String) : (openFor command site target).Orderly where
  whole := whole_openFor command site target
  tame := by
    refine tame_mapError ?_
    intro e
    rfl
  blind _ := (overlooks_load site target).mapError _

theorem orderly_follow (command : String) (href : Option String) :
    (follow command site href).Orderly := by
  cases href with
  | none => exact orderly_pure ()
  | some target => exact orderly_openFor site command target

/-! ## Elements -/

theorem orderly_locate {α : Type} {next : Nat × Element → Procedure α} (locator : String)
    (hnext : ∀ i e, (next (i, e)).Orderly) : (reading (·.locate locator) >>= next).Orderly := by
  refine orderly_bind_reading (fun s => s.isFatal_locate locator) (fun _ _ => rfl) ?_
  intro (i, e)
  exact hnext i e

theorem orderly_setElement (i : Nat) (e : Element) : (change (·.setElement i e)).Orderly :=
  orderly_change fun _ _ => rfl

theorem orderly_setChecked (checked : Bool) (i : Nat) (e : Element) :
    (change (·.setChecked checked i e)).Orderly := by
  refine orderly_change ?_
  intro cookies s
  unfold setChecked
  split <;> rfl

theorem orderly_toggle (command : String) (checked : Bool) (locator : String) :
    (toggle command checked locator).Orderly := by
  refine orderly_locate locator ?_
  intro i e
  exact (orderly_setChecked checked i e).ite (orderly_refuse _ _)

theorem orderly_clickElement (i : Nat) (e : Element) : (clickElement site i e).Orderly := by
  unfold clickElement
  split
  · exact orderly_setChecked _ i e
  · exact orderly_setChecked _ i e
  · exact orderly_follow site _ _
  · exact orderly_follow site _ _
  · exact orderly_pure ()

theorem orderly_click (locator : String) : (click site locator).Orderly := by
  refine orderly_locate locator ?_
  intro i e
  exact (orderly_clickElement site i e).ite (orderly_refuse _ _)

theorem orderly_submit (locator : String) : (submit site locator).Orderly := by
  refine orderly_bind_reading (fun s => s.isFatal_element locator) (fun _ _ => rfl) ?_
  intro e
  exact orderly_follow site "submit" e.href

theorem orderly_typeInto (locator text : String) : (typeInto locator text).Orderly := by
  refine orderly_locate locator ?_
  intro i e
  exact (orderly_refuse _ _).ite ((orderly_refuse _ _).ite (orderly_setElement i _))

theorem orderly_selectOption (locator option : String) :
    (selectOption locator option).Orderly := by
  refine orderly_locate locator ?_
  intro i e
  refine Orderly.ite ?_ (orderly_refuse _ _)
  cases chosen? e.options option with
  | none => exact orderly_refuse _ _
  | some label => exact orderly_setElement i _

theorem orderly_refresh : (refresh site).Orderly := by
  refine orderly_bind_reading (fun s => s.isFatal_page site) (fun _ _ => rfl) ?_
  intro page
  exact orderly_change fun _ _ => rfl

/-! ## The exceptions -/

/-- The action sets or deletes cookies. -/
def Action.setsCookies : Action → Bool
  | .clearCookies | .createCookie _ | .deleteCookie _ => true
  | _ => false

theorem orderly_perform {a : Action} (hback : a ≠ .goBack) (hsets : a.setsCookies = false) :
    (perform site a).Orderly := by
  cases a with
  | goBack => exact absurd rfl hback
  | clearCookies | createCookie _ | deleteCookie _ => cases hsets
  | refresh => exact orderly_refresh site
  | nothing => exact orderly_pure ()
  | openUrl target => exact orderly_openFor site "open" target
  | click locator => exact orderly_click site locator
  | check locator => exact orderly_toggle "check" true locator
  | uncheck locator => exact orderly_toggle "uncheck" false locator
  | submit locator => exact orderly_submit site locator
  | type locator text => exact orderly_typeInto locator text
  | select locator option => exact orderly_selectOption locator option
  | await timeout => exact orderly_reading (fun s => s.isFatal_await site timeout) fun _ _ => rfl
  | setPace method millis =>
      refine orderly_reading ?_ fun _ _ => rfl
      intro s
      rw [isFatal_map]
      exact isFatal_readMillis method millis
  | fireEvent locator =>
      refine orderly_reading ?_ fun _ _ => rfl
      intro s
      rw [isFatal_map]
      exact s.isFatal_find locator

theorem whole_setter {a : Action} (hsets : a.setsCookies = true) : (perform site a).Whole := by
  cases a with
  | clearCookies | deleteCookie _ => exact whole_change _
  | createCookie pair =>
      show (createCookie pair).Whole
      unfold createCookie
      split
      · exact whole_change _
      · exact whole_refuse _ _
  | _ => cases hsets

theorem tame_setter {a : Action} (hsets : a.setsCookies = true) : (perform site a).Tame := by
  cases a with
  | clearCookies | deleteCookie _ => exact tame_change _
  | createCookie pair =>
      show (createCookie pair).Tame
      unfold createCookie
      split
      · exact tame_change _
      · exact tame_refuse _ _
  | _ => cases hsets

theorem tame_goBack : (goBack site).Tame := by
  refine Tame.bind ?_ ?_
  · intro s
    unfold takeLatest
    split <;> rfl
  · intro latest
    refine (orderly_openFor site "goBack" latest).tame.bind ?_
    intro _
    exact tame_change _

theorem overlooks_goBack (cookies : Dictionary String) : (goBack site).Overlooks cookies := by
  refine Overlooks.bind ?_ ?_
  · intro s
    have hsame : (s.withCookies cookies).history = s.history := rfl
    simp only [takeLatest, hsame]
    cases s.history <;> rfl
  · intro latest
    refine ((orderly_openFor site "goBack" latest).blind cookies).bind ?_
    intro _
    exact overlooks_change fun s => rfl

/-! ## All actions -/

/-- An action that fails leaves the session as it was, unless it is going back. -/
theorem whole_perform {a : Action} (hback : a ≠ .goBack) : (perform site a).Whole := by
  cases hsets : a.setsCookies with
  | true => exact whole_setter site hsets
  | false => exact (orderly_perform site hback hsets).whole

theorem tame_perform (a : Action) : (perform site a).Tame := by
  cases hsets : a.setsCookies with
  | true => exact tame_setter site hsets
  | false =>
      by_cases hback : a = .goBack
      · subst hback
        exact tame_goBack site
      · exact (orderly_perform site hback hsets).tame

/-- An action that does not set cookies does not look at them either. -/
theorem overlooks_perform {a : Action} (hsets : a.setsCookies = false)
    (cookies : Dictionary String) : (perform site a).Overlooks cookies := by
  by_cases hback : a = .goBack
  · subst hback
    exact overlooks_goBack site cookies
  · exact (orderly_perform site hback hsets).blind cookies

/-! ## Invocations -/

theorem tame_answer (command : Command) : (command.answer site).Tame := by
  cases command with
  | query q => exact tame_reading fun s => s.isFatal_ask site q
  | action a =>
      show (perform site a >>= fun _ => pure Value.void).Tame
      refine (tame_perform site a).bind ?_
      intro _
      exact tame_pure _

variable (s : Session)

/-- An invocation that the session can read is not fatal. -/
theorem isFatal_invoke_of_known {method : String} {args : List String}
    (hknown : (Command.ofCall? method args).isSome = true) :
    isFatal (invoke site method args s).1 = false := by
  obtain ⟨command, hc⟩ := Option.isSome_iff_exists.mp hknown
  rw [invoke, hc]
  exact tame_answer site command s

/-- Any other is refused as fatal, with the method and the arguments that it was made with. -/
theorem invoke_of_unknown {method : String} {args : List String}
    (hunknown : Command.ofCall? method args = none) :
    invoke site method args s =
      (.error (.fatalInvocation method args "not supported by the simulated browser"), s) := by
  rw [invoke, hunknown]
  rfl

end TableTest.Session
