/-
`TableTest.Proofs.ElementCommands` — the commands that take a locator

Fifteen commands take a locator, and they find out what it means in different ways; one takes it
together with the name of an attribute and has to part the two.  They agree all the same: a text
that is refused is refused by all of them alike, what is not there is there for none, and otherwise
each command reads the one element, or changes it with its group, or follows its address, or refuses
for a reason of its own.
-/
import TableTest.Proofs.Denotation
import TableTest.Proofs.RadioGroup

namespace TableTest

/-! ## Commands that take a locator -/

/-- A command that takes a locator, with its other arguments. -/
inductive ElementCommand where
  | click
  | check
  | uncheck
  | submit
  | text
  | value
  | selectedLabel
  | visible
  | editable
  | checked
  | present
  /-- An attribute goes into one argument with the locator, so its name has no at sign. -/
  | attributeNamed (name : String) (plain : '@' ∉ name.toList)
  | type (text : String)
  | select (option : String)
  | fireEvent (event : String)
deriving DecidableEq

namespace ElementCommand

/-- The method of the browser. -/
def method : ElementCommand → String
  | click => "click"
  | check => "check"
  | uncheck => "uncheck"
  | submit => "submit"
  | text => "getText"
  | value => "getValue"
  | selectedLabel => "getSelectedLabel"
  | visible => "isVisible"
  | editable => "isEditable"
  | checked => "isChecked"
  | present => "isElementPresent"
  | attributeNamed _ _ => "getAttribute"
  | type _ => "type"
  | select _ => "select"
  | fireEvent _ => "fireEvent"

/-- The arguments of the method on a locator. -/
def args (locator : String) : ElementCommand → List String
  | attributeNamed name _ => [locator ++ "@" ++ name]
  | type typed => [locator, typed]
  | select option => [locator, option]
  | fireEvent event => [locator, event]
  | _ => [locator]

/-- The query or the action that the command is. -/
def command (locator : String) : ElementCommand → Session.Command
  | click => .action (.click locator)
  | check => .action (.check locator)
  | uncheck => .action (.uncheck locator)
  | submit => .action (.submit locator)
  | text => .query (.text locator)
  | value => .query (.value locator)
  | selectedLabel => .query (.selectedLabel locator)
  | visible => .query (.visible locator)
  | editable => .query (.editable locator)
  | checked => .query (.checked locator)
  | present => .query (.elementPresent locator)
  | attributeNamed name _ => .query (.attribute (locator ++ "@" ++ name))
  | type typed => .action (.type locator typed)
  | select option => .action (.select locator option)
  | fireEvent _ => .action (.fireEvent locator)

/-- The command carried out on a locator. -/
def on (site : Site) (locator : String) (c : ElementCommand) : Session.Procedure Value :=
  Session.invoke site c.method (c.args locator)

/-- What the command reads off an element, if it reads anything and the element has it. -/
def reading? (e : Element) : ElementCommand → Option Value
  | text => some (.text e.text)
  | value => some (.text e.fieldValue)
  | selectedLabel => if e.kind = .select then e.selectedLabel?.map .text else none
  | visible => some (.flag e.visible)
  | editable => some (.flag (e.kind.isField && e.editable))
  | checked => if e.kind.isToggle then some (.flag e.checked) else none
  | present => some (.flag true)
  | attributeNamed name _ => (e.attribute? name).map .text
  | _ => none

/-- The session at the page that an element leads to, if it leads to one; it need not lead
anywhere. -/
def followed? (site : Site) (e : Element) : Option (Session → Session) :=
  match e.href with
  | none => some id
  | some target =>
    match site.locate target with
    | .ok (url, page) => some (·.arrive url page)
    | .error _ => none

/-- What a click does on an element that can be seen. -/
def clicked? (site : Site) (i : Nat) (e : Element) : Option (Session → Session) :=
  match e.kind with
  | .checkbox => some (·.setChecked (!e.checked) i e)
  | .radio => some (·.setChecked true i e)
  | .link | .button => followed? site e
  | .label | .input | .select => some id

/-- What the command does with the element at a position, if it does anything and the element is
such that it can be done. -/
def deed? (site : Site) (i : Nat) (e : Element) : ElementCommand → Option (Session → Session)
  | click => if e.visible then clicked? site i e else none
  | check => if e.kind.isToggle then some (·.setChecked true i e) else none
  | uncheck => if e.kind.isToggle then some (·.setChecked false i e) else none
  | submit => followed? site e
  | type typed =>
    if e.kind.isField && !e.kind.isToggle && e.editable then
      some (·.setElement i { e with value := typed })
    else none
  | select option =>
    if e.kind = .select then
      (Session.chosen? e.options option).map fun label =>
        (·.setElement i { e with selected := some label })
    else none
  | fireEvent _ => some id
  | _ => none

variable {site : Site} {s : Session} {locator : String} {f : Failure} {c : ElementCommand}

theorem ofCall?_eq (locator : String) (c : ElementCommand) :
    Session.Command.ofCall? c.method (c.args locator) = some (c.command locator) := by
  cases c <;> rfl

theorem on_query {q : Session.Query} (hc : c.command locator = .query q) :
    c.on site locator s = (s.ask site q, s) :=
  Session.invoke_query ((c.ofCall?_eq locator).trans (congrArg some hc))

theorem on_action {a : Session.Action} (hc : c.command locator = .action a) :
    c.on site locator s = (Session.perform site a >>= fun _ => pure Value.void) s := by
  rw [on, Session.invoke, c.ofCall?_eq locator, hc]
  rfl

theorem method_ne_locate (c : ElementCommand) : c.method ≠ "locate" := by
  cases c <;> simp [method]

/-- The locator is what stands before the last at sign. -/
theorem splitLast?_attribute {name : String} (plain : '@' ∉ name.toList) :
    Text.splitLast? '@' (locator ++ "@" ++ name) = some (locator, name) :=
  Text.splitLast?_eq_some_iff.mpr ⟨rfl, plain⟩

/-! ## Without an element -/

/-- If there is no element to be found, every command fails with the failure of looking for it, but
for the question whether there is one. -/
theorem on_of_not_found (hfind : s.find locator = .error f) (hc : c ≠ .present) :
    c.on site locator s = (.error f, s) := by
  have hlocate : s.locate locator = .error f := by
    rw [Session.locate, hfind]
    rfl
  have helement : s.element locator = .error f := by
    rw [Session.element, hlocate]
    rfl
  cases c with
  | present => exact absurd rfl hc
  | click | check | uncheck | type _ | select _ =>
      rw [on_action rfl]
      refine Session.Procedure.bind_of_error (Session.Procedure.bind_of_error ?_)
      rw [Session.Procedure.reading, hlocate]
  | submit =>
      rw [on_action rfl]
      refine Session.Procedure.bind_of_error (Session.Procedure.bind_of_error ?_)
      rw [Session.Procedure.reading, helement]
  | fireEvent _ =>
      rw [on_action rfl]
      refine Session.Procedure.bind_of_error ?_
      rw [Session.perform, Session.Procedure.reading, hfind]
      rfl
  | text | value | visible | editable =>
      rw [on_query rfl, Session.ask, helement]
      rfl
  | selectedLabel =>
      rw [on_query rfl, Session.ask, Session.labelAt, helement]
      rfl
  | checked =>
      rw [on_query rfl, Session.ask, Session.checkedAt, helement]
      rfl
  | attributeNamed name plain =>
      rw [on_query rfl, Session.ask, Session.attributeAt, splitLast?_attribute plain]
      dsimp only
      rw [helement]
      rfl

theorem present_on (site : Site) (s : Session) (locator : String) :
    present.on site locator s = (s.isPresent locator, s) :=
  on_query (q := .elementPresent locator) rfl

end ElementCommand

/-! ## With an element -/

namespace Session

variable {site : Site} {s : Session} {text : String} {i : Nat} {e : Element} {c : ElementCommand}

/-- What a command may do to a session through the element `e` at position `i`: nothing, change
what may be changed of the element, check it in its group, or go where it leads. -/
inductive Touches (site : Site) (s : Session) (i : Nat) (e : Element) : Session → Prop
  | nothing : Touches site s i e s
  | edit {e' : Element} : e.Keeps e' → Touches site s i e (s.setElement i e')
  | group {s' : Session} : e.kind = .radio → s.TakesCheck i e s' → Touches site s i e s'
  | follow {target url : String} {page : Page} : e.href = some target →
      site.locate target = .ok (url, page) → Touches site s i e (s.arrive url page)

/-- How a command answers that has found the element `e` at position `i`: it reads the element, or
does something through it, or refuses in its own name. -/
inductive Responds (site : Site) (s : Session) (i : Nat) (e : Element) (c : ElementCommand) :
    Answer Session Value → Prop
  | reads {v : Value} : c.reading? e = some v → Responds site s i e c (.ok v, s)
  | does {f : Session → Session} : c.deed? site i e = some f → Touches site s i e (f s) →
      Responds site s i e c (.ok .void, f s)
  | refuses {reason : String} : c.reading? e = none → c.deed? site i e = none →
      Responds site s i e c (.error (.commandFailed c.method reason), s)

theorem touches_setChecked (checked : Bool) (he : s.elements[i]? = some e)
    (hk : e.kind.isToggle = true) : Touches site s i e (s.setChecked checked i e) := by
  by_cases h : e.kind ≠ .radio ∨ checked = false
  · rw [setChecked_alone h]
    exact .edit ((Element.Keeps.refl e).check hk checked)
  · obtain ⟨hradio, hchecked⟩ := not_or.mp h
    rw [Bool.not_eq_false] at hchecked
    subst hchecked
    exact .group (not_not.mp hradio) (setChecked_radio he (not_not.mp hradio))

theorem touches_followed {f : Session → Session} (hf : ElementCommand.followed? site e = some f) :
    Touches site s i e (f s) := by
  unfold ElementCommand.followed? at hf
  split at hf
  · cases hf
    exact .nothing
  · next hhref =>
    split at hf
    · next hl =>
      cases hf
      exact .follow hhref hl
    · cases hf

theorem touches_clicked {f : Session → Session} (he : s.elements[i]? = some e)
    (hf : ElementCommand.clicked? site i e = some f) : Touches site s i e (f s) := by
  unfold ElementCommand.clicked? at hf
  cases hk : e.kind with
  | checkbox | radio =>
      rw [hk] at hf
      cases hf
      exact touches_setChecked _ he (by rw [hk]; rfl)
  | link | button =>
      rw [hk] at hf
      exact touches_followed hf
  | label | input | select =>
      rw [hk] at hf
      cases hf
      exact .nothing

/-- Whatever a command does, it does through the element. -/
theorem touches_of_deed {f : Session → Session} (he : s.elements[i]? = some e)
    (hf : c.deed? site i e = some f) : Touches site s i e (f s) := by
  cases c with
  | click => exact touches_clicked he (Option.ite_none_right_eq_some.mp hf).2
  | check | uncheck =>
      obtain ⟨hk, hf⟩ := Option.ite_none_right_eq_some.mp hf
      cases hf
      exact touches_setChecked _ he hk
  | submit => exact touches_followed hf
  | type typed =>
      obtain ⟨hk, hf⟩ := Option.ite_none_right_eq_some.mp hf
      cases hf
      simp only [Bool.and_eq_true, Bool.not_eq_true'] at hk
      exact .edit ((Element.Keeps.refl e).type hk.1.1 hk.1.2 hk.2 typed)
  | select option =>
      obtain ⟨hk, hf⟩ := Option.ite_none_right_eq_some.mp hf
      obtain ⟨label, hlabel, rfl⟩ := Option.map_eq_some_iff.mp hf
      exact .edit ((Element.Keeps.refl e).select hk (chosen?_mem hlabel))
  | fireEvent _ =>
      cases hf
      exact .nothing
  | text | value | selectedLabel | visible | editable | checked | present | attributeNamed _ _ =>
      cases hf

/-! ### The answer -/

/-- What a procedure comes to that does something, if it does anything, and refuses otherwise. -/
def done (command reason : String) (d : Option (Session → Session)) : Procedure Unit :=
  d.elim (.refuse command reason) .change

theorem follow_eq (command : String) (site : Site) (e : Element) : ∃ reason,
    follow command site e.href = done command reason (ElementCommand.followed? site e) := by
  unfold ElementCommand.followed?
  cases e.href with
  | none => exact ⟨"", rfl⟩
  | some target =>
      dsimp only
      cases hl : site.locate target with
      | ok found =>
          refine ⟨"", funext fun s => ?_⟩
          exact openFor_ok_iff.mpr ⟨found.1, found.2, hl, rfl⟩
      | error f =>
          refine ⟨f.message, funext fun s => ?_⟩
          show (openFor command site target s) = _
          rw [openFor, Procedure.mapError, load_of_error hl]
          rfl

theorem clickElement_eq (site : Site) (i : Nat) (e : Element) :
    ∃ reason, clickElement site i e = done "click" reason (ElementCommand.clicked? site i e) := by
  unfold clickElement ElementCommand.clicked?
  cases e.kind with
  | checkbox | radio | label | input | select => exact ⟨"", rfl⟩
  | link | button => exact follow_eq "click" site e

theorem responds_of_query {q : Query} (reason : String) (hc : c.command text = .query q)
    (hdeed : c.deed? site i e = none)
    (hask : s.ask site q = (c.reading? e).elim (refuse c.method reason) .ok) :
    s.Responds site i e c (c.on site text s) := by
  rw [ElementCommand.on_query hc, hask]
  cases hread : c.reading? e with
  | none => exact .refuses hread hdeed
  | some v => exact .reads hread

theorem responds_of_action {a : Action} (reason : String) (hc : c.command text = .action a)
    (he : s.elements[i]? = some e) (hread : c.reading? e = none)
    (hperform : perform site a s = done c.method reason (c.deed? site i e) s) :
    s.Responds site i e c (c.on site text s) := by
  rw [ElementCommand.on_action hc]
  cases hdeed : c.deed? site i e with
  | none =>
      rw [hdeed] at hperform
      rw [Procedure.bind_of_error hperform]
      exact .refuses hread hdeed
  | some f =>
      rw [hdeed] at hperform
      rw [Procedure.bind_of_ok hperform]
      exact .does hdeed (touches_of_deed he hdeed)

theorem Denotes.labelAt_eq (h : s.Denotes text i e) : ∃ reason, s.labelAt text =
    (if e.kind = .select then e.selectedLabel?.map .text else none).elim
      (refuse "getSelectedLabel" reason) .ok := by
  rw [labelAt, h.element]
  simp only [Except.bind, beq_iff_eq]
  split
  · refine ⟨"No option selected", ?_⟩
    cases e.selectedLabel? <;> rfl
  · exact ⟨_, rfl⟩

theorem Denotes.checkedAt_eq (h : s.Denotes text i e) : ∃ reason, s.checkedAt text =
    (if e.kind.isToggle then some (.flag e.checked) else none).elim
      (refuse "isChecked" reason) .ok := by
  refine ⟨"Element is not a toggle-button.", ?_⟩
  rw [checkedAt, h.element]
  simp only [Except.bind]
  split <;> rfl

theorem Denotes.attributeAt_eq (h : s.Denotes text i e) {name : String}
    (plain : '@' ∉ name.toList) : ∃ reason, s.attributeAt (text ++ "@" ++ name) =
    ((e.attribute? name).map .text).elim (refuse "getAttribute" reason) .ok := by
  refine ⟨"Could not find element attribute: " ++ (text ++ "@" ++ name), ?_⟩
  rw [attributeAt, ElementCommand.splitLast?_attribute plain]
  dsimp only
  rw [h.element, Except.bind]
  cases e.attribute? name <;> rfl

theorem Denotes.bind_locate {next : Nat × Element → Procedure Unit} (h : s.Denotes text i e) :
    (Procedure.reading (·.locate text) >>= next) s = next (i, e) s :=
  Procedure.bind_of_ok (Procedure.reading_ok_iff.mpr ⟨locate_ok_iff.mpr h, rfl⟩)

theorem Denotes.bind_element {next : Element → Procedure Unit} (h : s.Denotes text i e) :
    (Procedure.reading (·.element text) >>= next) s = next e s :=
  Procedure.bind_of_ok (Procedure.reading_ok_iff.mpr ⟨h.element, rfl⟩)

theorem Denotes.click_eq (h : s.Denotes text i e) (site : Site) : ∃ reason,
    click site text s =
      done "click" reason (if e.visible then ElementCommand.clicked? site i e else none) s := by
  rw [click, h.bind_locate]
  dsimp only
  split
  · obtain ⟨reason, hclick⟩ := clickElement_eq site i e
    exact ⟨reason, congrFun hclick s⟩
  · exact ⟨_, rfl⟩

theorem Denotes.toggle_eq (h : s.Denotes text i e) (command : String) (checked : Bool) :
    ∃ reason, toggle command checked text s = done command reason
      (if e.kind.isToggle then some (·.setChecked checked i e) else none) s := by
  refine ⟨"Element is not a toggle-button.", ?_⟩
  rw [toggle, h.bind_locate]
  dsimp only
  split <;> rfl

theorem Denotes.typeInto_eq (h : s.Denotes text i e) (typed : String) :
    ∃ reason, typeInto text typed s = done "type" reason
      (if e.kind.isField && !e.kind.isToggle && e.editable then
        some (·.setElement i { e with value := typed }) else none) s := by
  have hfield : (!e.kind.isField || e.kind.isToggle) = !(e.kind.isField && !e.kind.isToggle) := by
    rw [Bool.not_and, Bool.not_not]
  rw [typeInto, h.bind_locate]
  dsimp only
  rw [hfield]
  cases e.kind.isField && !e.kind.isToggle with
  | false => exact ⟨_, rfl⟩
  | true => cases e.editable <;> exact ⟨"Element is read only", rfl⟩

theorem Denotes.selectOption_eq (h : s.Denotes text i e) (option : String) :
    ∃ reason, selectOption text option s = done "select" reason
      (if e.kind = .select then (chosen? e.options option).map fun label =>
        (·.setElement i { e with selected := some label }) else none) s := by
  rw [selectOption, h.bind_locate]
  simp only [beq_iff_eq]
  split
  · refine ⟨s!"Option '{option}' not found", ?_⟩
    cases chosen? e.options option <;> rfl
  · exact ⟨_, rfl⟩

/-- A command that finds an element answers from it, or acts through it, or refuses. -/
theorem Denotes.responds (h : s.Denotes text i e) (site : Site) (c : ElementCommand) :
    s.Responds site i e c (c.on site text s) := by
  have he := h.getElem?
  cases c with
  | click =>
      obtain ⟨reason, hclick⟩ := h.click_eq site
      exact responds_of_action reason rfl he rfl hclick
  | check =>
      obtain ⟨reason, htoggle⟩ := h.toggle_eq "check" true
      exact responds_of_action reason rfl he rfl htoggle
  | uncheck =>
      obtain ⟨reason, htoggle⟩ := h.toggle_eq "uncheck" false
      exact responds_of_action reason rfl he rfl htoggle
  | submit =>
      obtain ⟨reason, hfollow⟩ := follow_eq "submit" site e
      refine responds_of_action reason rfl he rfl ?_
      exact h.bind_element.trans (congrFun hfollow s)
  | type typed =>
      obtain ⟨reason, htype⟩ := h.typeInto_eq typed
      exact responds_of_action reason rfl he rfl htype
  | select option =>
      obtain ⟨reason, hselect⟩ := h.selectOption_eq option
      exact responds_of_action reason rfl he rfl hselect
  | fireEvent _ =>
      refine responds_of_action "" rfl he rfl ?_
      obtain ⟨l, hl, hf, -⟩ := h
      rw [perform, Procedure.reading, find_ok_iff.mpr ⟨l, hl, hf⟩]
      rfl
  | text | value | visible | editable =>
      refine responds_of_query "" rfl rfl ?_
      rw [ask, h.element]
      rfl
  | selectedLabel =>
      obtain ⟨reason, hlabel⟩ := h.labelAt_eq
      exact responds_of_query reason rfl rfl hlabel
  | checked =>
      obtain ⟨reason, hchecked⟩ := h.checkedAt_eq
      exact responds_of_query reason rfl rfl hchecked
  | present =>
      refine responds_of_query "" rfl rfl ?_
      obtain ⟨l, hl, hf, -⟩ := h
      rw [ask, isPresent, find_ok_iff.mpr ⟨l, hl, hf⟩]
      rfl
  | attributeNamed name plain =>
      obtain ⟨reason, hattribute⟩ := h.attributeAt_eq plain
      exact responds_of_query reason rfl rfl hattribute

theorem Responds.not_missing {answer : Answer Session Value} (h : s.Responds site i e c answer)
    {f : Failure} (hf : answer.1 = .error f) :
    (∀ missing, f ≠ .elementNotFound missing) ∧ ∀ reason, f ≠ .commandFailed "locate" reason := by
  cases h with
  | reads _ | does _ _ => cases hf
  | refuses _ _ =>
      cases hf
      refine ⟨?_, ?_⟩
      · intro missing h
        cases h
      · intro reason h
        exact c.method_ne_locate (Failure.commandFailed.inj h).1

/-! ## Every command alike -/

/-- In whatever state the session is, a text means one thing as a locator.  If it is refused, all
commands that take it fail with the refusal.  If it denotes nothing, they all say that there is no
such element, but for the question whether there is one, which is answered with no.  If it denotes
an element, that question is answered with yes, and each command reads that element, or does
something through it, or refuses in its own name.  An identifier that is the id of an element
anywhere on the page denotes the first element with that id, and none that it is the name of. -/
theorem commands_agree (site : Site) (s : Session) (text : String) :
    (∃! m, s.Means text m) ∧
    (∀ reason, s.Means text (.refused reason) →
      ∀ c : ElementCommand, c.on site text s = (.error (.commandFailed "locate" reason), s)) ∧
    (s.Means text .nothing →
      ElementCommand.present.on site text s = (.ok (.flag false), s) ∧
      ∀ c : ElementCommand, c ≠ .present → c.on site text s = (.error (.elementNotFound text), s)) ∧
    (∀ i e, s.Means text (.element i e) →
      ElementCommand.present.on site text s = (.ok (.flag true), s) ∧
      ∀ c : ElementCommand, s.Responds site i e c (c.on site text s) ∧
        ∀ f, (c.on site text s).1 = .error f →
          (∀ missing, f ≠ .elementNotFound missing) ∧
          ∀ reason, f ≠ .commandFailed "locate" reason) ∧
    (∀ value, Locator.Cut text "identifier" value ∨ (text = value ∧ Locator.Bare value) →
      (∃ e ∈ s.elements, e.id = some value) →
      ∃ i e, s.Means text (.element i e) ∧ FirstAt s.elements (·.id = some value) i) := by
  refine ⟨?_, ?_, ?_, ?_, ?_⟩
  · obtain ⟨m, hm⟩ := s.exists_means text
    exact ⟨m, hm, fun m' hm' => hm'.unique hm⟩
  · intro reason hm c
    by_cases hc : c = .present
    · subst hc
      rw [ElementCommand.present_on, isPresent, hm.find_eq]
      rfl
    · exact ElementCommand.on_of_not_found hm.find_eq hc
  · intro hm
    refine ⟨?_, fun c hc => ElementCommand.on_of_not_found hm.find_eq hc⟩
    rw [ElementCommand.present_on, isPresent, hm.find_eq]
    rfl
  · intro i e hm
    refine ⟨?_, ?_⟩
    · rw [ElementCommand.present_on, isPresent, hm.find_eq]
      rfl
    · intro c
      have hresponds := hm.denotes.responds site c
      exact ⟨hresponds, fun f => hresponds.not_missing⟩
  · intro value htext hid
    obtain ⟨i, hfirst, hfinds⟩ := Locator.exists_finds_id hid
    obtain ⟨e, he⟩ := hfinds.exists_getElem?
    have hreads : Locator.Reads text (.identifier value) := by
      rcases htext with hcut | ⟨rfl, hbare⟩
      · exact .identifier hcut
      · exact .bare hbare
    exact ⟨i, e, .element (Locator.parse_of_reads hreads) hfinds he, hfirst⟩

/-- An at sign in the locator, which is the name of one element and the id of another one. -/
example :
    let site : Site :=
      { pages := [{ url := "/form", elements :=
          [{ name := some "a@b", text := "first" }, { id := some "a@b", text := "second" }] }] }
    let s := reached site [.navigate "/form"]
    invoke site "getText" ["a@b"] s = (.ok (.text "second"), s) ∧
      invoke site "getAttribute" ["a@b@id"] s = (.ok (.text "a@b"), s) := by
  decide +kernel

end Session

end TableTest
