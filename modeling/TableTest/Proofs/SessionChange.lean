/-
`TableTest.Proofs.SessionChange` — what a call can do to a session

A session answers some forty methods, but there are few ways in which its state can change: it
goes to a page, starts the elements of its page afresh, edits an element, or sets its cookies.
`Onward` lists them with what each of them presupposes; every call but one, successful or not,
makes one of these changes or none.  The one is going back, which also takes from the history.
What each of the changes keeps is therefore kept by every run.
-/
import TableTest.Proofs.Orderly

namespace TableTest.Session

variable {site : Site} {s s' : Session}

/-! ## The ways in which a state changes -/

/-- The ways in which a call other than going back can change the state of a session. -/
inductive Onward (site : Site) (s : Session) : Session → Prop
  /-- Nothing changes. -/
  | stay : Onward site s s
  /-- The session goes to the page that a target stands for. -/
  | arrive {target url : String} {page : Page} : site.locate target = .ok (url, page) →
      Onward site s (s.arrive url page)
  /-- The elements of the current page are started afresh. -/
  | refresh {page : Page} : s.page site = .ok page →
      Onward site s { s with elements := page.elements }
  /-- A checkbox or radio is checked or unchecked. -/
  | check {i : Nat} {e : Element} (checked : Bool) : s.elements[i]? = some e →
      e.kind.isToggle = true → Onward site s (s.setChecked checked i e)
  /-- A text is typed into a field that can be edited. -/
  | type {i : Nat} {e : Element} (text : String) : s.elements[i]? = some e →
      e.kind.isField = true → e.kind.isToggle = false → e.editable = true →
      Onward site s (s.setElement i { e with value := text })
  /-- An option of a select is chosen. -/
  | select {i : Nat} {e : Element} {label : String} : s.elements[i]? = some e →
      e.kind = .select → label ∈ e.options →
      Onward site s (s.setElement i { e with selected := some label })
  /-- The cookies are set anew. -/
  | cookies (cookies : Dictionary String) : Onward site s { s with cookies }

/-- The ways in which a call can change the state of a session. -/
inductive Change (site : Site) (s : Session) : Session → Prop
  /-- The session makes a change that is not going back. -/
  | onward {s' : Session} : Onward site s s' → Change site s s'
  /-- The session goes back to the latest page of its history. -/
  | back {latest url : String} {rest : List String} {page : Page} :
      s.history = latest :: rest → site.locate latest = .ok (url, page) →
      Change site s { s.arrive url page with history := (s.location.toList ++ rest).tail }
  /-- The latest page of the history is given up, as it cannot be shown. -/
  | forget {latest : String} {rest : List String} {e : Failure} :
      s.history = latest :: rest → site.locate latest = .error e →
      Change site s { s with history := rest }

theorem onward_openFor {command target : String}
    (h : openFor command site target s = (.ok (), s')) : Onward site s s' := by
  obtain ⟨url, page, hl, rfl⟩ := openFor_ok_iff.mp h
  exact .arrive hl

theorem onward_follow {command : String} {href : Option String}
    (h : follow command site href s = (.ok (), s')) : Onward site s s' := by
  cases href with
  | none => cases h; exact .stay
  | some target => exact onward_openFor h

theorem onward_toggle {command locator : String} {checked : Bool}
    (h : toggle command checked locator s = (.ok (), s')) : Onward site s s' := by
  obtain ⟨i, e, hl, hk, rfl⟩ := toggle_ok_iff.mp h
  exact .check checked (locate_ok hl) hk

theorem onward_click {locator : String} (h : click site locator s = (.ok (), s')) :
    Onward site s s' := by
  obtain ⟨i, e, hl, -, h⟩ := click_ok_iff.mp h
  unfold clickElement at h
  cases hk : e.kind <;> rw [hk] at h
  case checkbox | radio => cases h; exact .check _ (locate_ok hl) (by rw [hk]; rfl)
  case link | button => exact onward_follow h
  case label | input | select => cases h; exact .stay

theorem onward_submit {locator : String} (h : submit site locator s = (.ok (), s')) :
    Onward site s s' := by
  obtain ⟨e, -, h⟩ := submit_ok_iff.mp h
  exact onward_follow h

theorem onward_typeInto {locator text : String} (h : typeInto locator text s = (.ok (), s')) :
    Onward site s s' := by
  obtain ⟨i, e, hl, hf, ht, he, rfl⟩ := typeInto_ok_iff.mp h
  exact .type text (locate_ok hl) hf ht he

theorem onward_selectOption {locator option : String}
    (h : selectOption locator option s = (.ok (), s')) : Onward site s s' := by
  obtain ⟨i, e, label, hl, hk, hc, rfl⟩ := selectOption_ok_iff.mp h
  exact .select (locate_ok hl) hk (chosen?_mem hc)

theorem onward_createCookie {pair : String} (h : createCookie pair s = (.ok (), s')) :
    Onward site s s' := by
  unfold createCookie at h
  rcases hp : Text.splitFirst? '=' pair with _ | ⟨name, value⟩ <;> rw [hp] at h <;> cases h
  exact .cookies _

/-- An action that succeeds makes one of the changes, if it is not going back. -/
theorem onward_of_ok {a : Action} (ha : a ≠ .goBack) (h : perform site a s = (.ok (), s')) :
    Onward site s s' := by
  cases a with
  | goBack => exact absurd rfl ha
  | refresh =>
      obtain ⟨page, hp, h⟩ := Procedure.bind_reading_ok_iff.mp h
      cases h
      exact .refresh hp
  | nothing => cases h; exact .stay
  | clearCookies => cases h; exact .cookies {}
  | openUrl target => exact onward_openFor h
  | click locator => exact onward_click h
  | check locator => exact onward_toggle h
  | uncheck locator => exact onward_toggle h
  | submit locator => exact onward_submit h
  | type locator text => exact onward_typeInto h
  | select locator option => exact onward_selectOption h
  | await _ | setPace _ _ | fireEvent _ =>
      obtain rfl : s = s' := congrArg Prod.snd h
      exact .stay
  | createCookie pair => exact onward_createCookie h
  | deleteCookie name => cases h; exact .cookies _

theorem perform_onward (site : Site) {a : Action} (ha : a ≠ .goBack) (s : Session) :
    Onward site s (perform site a s).2 := by
  rcases h : perform site a s with ⟨e | ⟨⟨⟩⟩, s'⟩
  · rw [whole_perform site ha s e s' h]
    exact .stay
  · exact onward_of_ok ha h

theorem goBack_change (site : Site) (s : Session) : Change site s (goBack site s).2 := by
  rcases h : goBack site s with ⟨e | ⟨⟨⟩⟩, s'⟩
  · rcases goBack_error h with ⟨-, rfl⟩ | ⟨latest, rest, e', hh, hl, rfl⟩
    · exact .onward .stay
    · exact .forget hh hl
  · obtain ⟨latest, rest, url, page, hh, hl, rfl⟩ := goBack_ok_iff.mp h
    exact .back hh hl

/-! ## Calls -/

/-- The state that a call leaves. -/
def after (site : Site) (s : Session) : Call → Session
  | .invoke method args => (invoke site method args s).2
  | .navigate url => (navigate site url s).2
  | .await timeout => ((handle site).await timeout s).2

/-- The state of a new session after calls, successful or not. -/
def reached (site : Site) (calls : List Call) : Session :=
  calls.foldl (after site) {}

/-- No other method with no other arguments is read as going back. -/
theorem ofCall?_goBack {method : String} {args : List String}
    (h : Command.ofCall? method args = some (.action .goBack)) :
    method = "goBack" ∧ args = [] := by
  match args with
  | [] =>
      change Command.nullary? method = _ at h
      unfold Command.nullary? at h
      split at h <;> cases h
      exact ⟨rfl, rfl⟩
  | [arg] =>
      change Command.unary? method arg = _ at h
      unfold Command.unary? at h
      split at h <;> cases h
  | [first, second] =>
      change Command.binary? method first second = _ at h
      unfold Command.binary? at h
      split at h <;> cases h
  | _ :: _ :: _ :: _ => cases h

theorem invoke_goBack (site : Site) :
    invoke site "goBack" [] = goBack site >>= fun _ => pure Value.void := rfl

/-- Every call that is not going back makes one of the changes that are not. -/
theorem after_onward (site : Site) (s : Session) {call : Call}
    (hcall : call ≠ .invoke "goBack" []) : Onward site s (s.after site call) := by
  cases call with
  | navigate url =>
      rcases h : load site url s with ⟨e | ⟨⟨⟩⟩, s'⟩
      · have hs' : s.after site (.navigate url) = s' := congrArg Prod.snd h
        rw [hs', whole_load site url s e s' h]
        exact .stay
      · have hs' : s.after site (.navigate url) = s' := congrArg Prod.snd h
        obtain ⟨url, page, hl, rfl⟩ := load_ok_iff.mp h
        exact hs' ▸ .arrive hl
  | await timeout => exact .stay
  | invoke method args =>
      show Onward site s (invoke site method args s).2
      unfold invoke
      rcases hc : Command.ofCall? method args with _ | ⟨q⟩ | ⟨a⟩
      · exact .stay
      · exact .stay
      · have ha : a ≠ .goBack := by
          rintro rfl
          obtain ⟨rfl, rfl⟩ := ofCall?_goBack hc
          exact hcall rfl
        show Onward site s ((perform site a >>= fun _ => pure Value.void) s).2
        rw [Procedure.bind_pure_state]
        exact perform_onward site ha s

/-- Every call makes one of the changes. -/
theorem after_change (site : Site) (s : Session) (call : Call) :
    Change site s (s.after site call) := by
  by_cases hcall : call = .invoke "goBack" []
  · subst hcall
    show Change site s (invoke site "goBack" [] s).2
    rw [invoke_goBack, Procedure.bind_pure_state]
    exact goBack_change site s
  · exact .onward (after_onward site s hcall)

/-- What every change keeps holds of every state that a new session can reach. -/
theorem reached_of_change {P : Session → Prop} (site : Site) (start : P {})
    (step : ∀ s s', P s → Change site s s' → P s') (calls : List Call) :
    P (reached site calls) := by
  suffices ∀ (calls : List Call) (s : Session), P s → P (calls.foldl (after site) s) from
    this calls {} start
  intro calls
  induction calls with
  | nil => intro s hs; exact hs
  | cons call calls ih => intro s hs; exact ih _ (step s _ hs (after_change site s call))

end TableTest.Session
