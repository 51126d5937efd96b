/-
`TableTest.Proofs.RadioGroup` — at most one radio of a group is checked

Radios of one name are a group, and so are the radios without a name.  Checking a radio takes the
check from the rest of its group, and otherwise a radio gets a check only as its page is shown as it
is declared.  So if no page declares two checked radios of one group, there never are two.
-/
import TableTest.Proofs.Editing
import TableTest.Proofs.SessionFailure

namespace TableTest

/-! ## Groups of radios -/

/-- The element is a radio of the group. -/
def Element.InGroup (group : Option String) (e : Element) : Prop :=
  e.kind = .radio ∧ e.name = group

/-- The element is a checked radio of the group. -/
def Element.CheckedIn (group : Option String) (e : Element) : Prop :=
  e.InGroup group ∧ e.checked = true

/-- No two of the elements are checked radios of one group. -/
def Exclusive (es : List Element) : Prop :=
  ∀ (group : Option String) (i j : Nat) (a b : Element), es[i]? = some a → es[j]? = some b →
    a.CheckedIn group → b.CheckedIn group → i = j

variable {es : List Element} {i : Nat} {e : Element}

instance (group : Option String) (e : Element) : Decidable (e.CheckedIn group) :=
  inferInstanceAs (Decidable ((_ ∧ _) ∧ _))

theorem exclusive_iff : Exclusive es ↔ ∀ i j : Fin es.length,
    es[i].CheckedIn es[i].name → es[j].CheckedIn es[i].name → i = j := by
  constructor
  · intro h i j hi hj
    have hij := h es[i].name i j es[i] es[j] (by simp) (by simp) hi hj
    exact Fin.ext hij
  · intro h group i j a b ha hb hga hgb
    obtain ⟨hi, rfl⟩ := List.getElem?_eq_some_iff.mp ha
    obtain ⟨hj, rfl⟩ := List.getElem?_eq_some_iff.mp hb
    obtain rfl := hga.1.2
    exact congrArg Fin.val (h ⟨i, hi⟩ ⟨j, hj⟩ hga hgb)

instance (es : List Element) : Decidable (Exclusive es) :=
  decidable_of_iff _ exclusive_iff.symm

theorem exclusive_nil : Exclusive [] := by
  intro group i j a b ha
  simp at ha

/-- An element may be replaced by one that is checked in no other group. -/
theorem Exclusive.set {e' : Element} (h : Exclusive es) (hi : es[i]? = some e)
    (hin : ∀ group, e'.CheckedIn group → e.CheckedIn group) : Exclusive (es.set i e') := by
  have hback {group : Option String} {j : Nat} {a : Element}
      (ha : (es.set i e')[j]? = some a) (hg : a.CheckedIn group) :
      ∃ a', es[j]? = some a' ∧ a'.CheckedIn group := by
    by_cases hj : i = j
    · subst hj
      have hlt : i < es.length := (List.getElem?_eq_some_iff.mp hi).1
      rw [List.getElem?_set_self hlt] at ha
      cases ha
      exact ⟨e, hi, hin group hg⟩
    · rw [List.getElem?_set_ne hj] at ha
      exact ⟨a, ha, hg⟩
  intro group j k a b ha hb hga hgb
  obtain ⟨a', ha', hga'⟩ := hback ha hga
  obtain ⟨b', hb', hgb'⟩ := hback hb hgb
  exact h group j k a' b' ha' hb' hga' hgb'

namespace Session

variable {site : Site} {s s' : Session} {locator : String} {r : Element}

/-! ## Checking and unchecking -/

/-- The session `s'` is `s` after the radio `r`, at position `i`, has taken the check of its
group. -/
structure TakesCheck (s : Session) (i : Nat) (r : Element) (s' : Session) : Prop where
  /-- Only elements have changed. -/
  same : s' = { s with elements := s'.elements }
  length : s'.elements.length = s.elements.length
  self : s'.elements[i]? = some { r with checked := true }
  group : ∀ j e, j ≠ i → s.elements[j]? = some e → e.InGroup r.name →
    s'.elements[j]? = some { e with checked := false }
  others : ∀ j e, j ≠ i → s.elements[j]? = some e → ¬ e.InGroup r.name →
    s'.elements[j]? = some e

theorem clearedIn_of_inGroup {group : Option String} (h : e.InGroup group) :
    clearedIn group e = { e with checked := false } := by
  rw [clearedIn, if_pos (by simp [h.1, h.2])]

theorem clearedIn_of_not_inGroup {group : Option String} (h : ¬ e.InGroup group) :
    clearedIn group e = e := by
  rw [clearedIn, if_neg]
  intro hg
  rw [Bool.and_eq_true, beq_iff_eq, beq_iff_eq] at hg
  exact h hg

theorem setChecked_radio (hi : s.elements[i]? = some r) (hk : r.kind = .radio) :
    s.TakesCheck i r (s.setChecked true i r) := by
  have hs' : s.setChecked true i r = { s with
      elements := (s.elements.map (clearedIn r.name)).set i { r with checked := true } } := by
    rw [setChecked, if_pos (by simp [hk])]
    rfl
  have hlt : i < s.elements.length := (List.getElem?_eq_some_iff.mp hi).1
  rw [hs']
  refine ⟨rfl, by simp, ?_, ?_, ?_⟩
  · exact List.getElem?_set_self (by simpa using hlt)
  · intro j e hj he hg
    rw [List.getElem?_set_ne hj.symm, List.getElem?_map, he, Option.map_some,
      clearedIn_of_inGroup hg]
  · intro j e hj he hg
    rw [List.getElem?_set_ne hj.symm, List.getElem?_map, he, Option.map_some,
      clearedIn_of_not_inGroup hg]

/-- Unchecking, and checking what is no radio, changes that element only. -/
theorem setChecked_alone {checked : Bool} (h : e.kind ≠ .radio ∨ checked = false) :
    s.setChecked checked i e =
      { s with elements := s.elements.set i { e with checked := checked } } := by
  rw [setChecked, if_neg]
  · rfl
  · intro hboth
    rw [Bool.and_eq_true, beq_iff_eq] at hboth
    rcases h with h | h
    · exact h hboth.1
    · rw [h] at hboth
      cases hboth.2

/-! ## One check in a group -/

theorem TakesCheck.exclusive (h : s.TakesCheck i r s') (hs : Exclusive s.elements) :
    Exclusive s'.elements := by
  -- in the group of `r` only `r` is checked, and the other groups are as they were
  have hback {group : Option String} {j : Nat} {a : Element} (hj : j ≠ i)
      (ha : s'.elements[j]? = some a) (hg : a.CheckedIn group) :
      s.elements[j]? = some a ∧ group ≠ r.name := by
    have hlt : j < s.elements.length := h.length ▸ (List.getElem?_eq_some_iff.mp ha).1
    have he : s.elements[j]? = some s.elements[j] := List.getElem?_eq_getElem hlt
    by_cases hin : s.elements[j].InGroup r.name
    · cases ha.symm.trans (h.group j _ hj he hin)
      cases hg.2
    · cases ha.symm.trans (h.others j _ hj he hin)
      exact ⟨he, fun hgroup => hin (hgroup ▸ hg.1)⟩
  have hself {group : Option String} {a : Element} (ha : s'.elements[i]? = some a)
      (hg : a.CheckedIn group) : group = r.name := by
    cases ha.symm.trans h.self
    exact hg.1.2.symm
  intro group j k a b ha hb hga hgb
  by_cases hj : j = i
  · subst hj
    by_cases hk : k = j
    · exact hk.symm
    · exact absurd (hself ha hga) (hback hk hb hgb).2
  · obtain ⟨ha', hne⟩ := hback hj ha hga
    by_cases hk : k = i
    · subst hk
      exact absurd (hself hb hgb) hne
    · exact hs group j k a b ha' (hback hk hb hgb).1 hga hgb

theorem exclusive_setChecked (hs : Exclusive s.elements) (hi : s.elements[i]? = some e)
    (checked : Bool) : Exclusive (s.setChecked checked i e).elements := by
  by_cases h : e.kind ≠ .radio ∨ checked = false
  · rw [setChecked_alone h]
    refine hs.set hi ?_
    intro group hin
    rcases h with hk | hc
    · exact absurd hin.1.1 hk
    · rw [hc] at hin
      cases hin.2
  · obtain ⟨hk, hc⟩ := not_or.mp h
    rw [Bool.not_eq_false] at hc
    subst hc
    exact (setChecked_radio hi (not_not.mp hk)).exclusive hs

theorem Onward.exclusive (hc : Onward site s s') (hs : Exclusive s.elements)
    (hsite : ∀ page ∈ site.pages, Exclusive page.elements) : Exclusive s'.elements := by
  cases hc with
  | stay | cookies _ => exact hs
  | arrive hl => exact hsite _ (Site.page?_some (Site.locate_ok hl).2).1
  | refresh hp =>
      obtain ⟨url, -, hpage⟩ := page_ok hp
      exact hsite _ (Site.page?_some hpage).1
  | check checked hi _ => exact exclusive_setChecked hs hi checked
  | type _ hi _ _ _ => exact hs.set hi fun _ hin => hin
  | select hi _ _ => exact hs.set hi fun _ hin => hin

/-- Every change keeps the groups exclusive, if all pages declare them so. -/
theorem Change.exclusive (hc : Change site s s') (hs : Exclusive s.elements)
    (hsite : ∀ page ∈ site.pages, Exclusive page.elements) : Exclusive s'.elements := by
  cases hc with
  | onward hc => exact hc.exclusive hs hsite
  | back _ hl => exact hsite _ (Site.page?_some (Site.locate_ok hl).2).1
  | forget _ _ => exact hs

theorem exclusive_reached (hsite : ∀ page ∈ site.pages, Exclusive page.elements)
    (calls : List Call) : Exclusive (reached site calls).elements :=
  reached_of_change (P := fun s => Exclusive s.elements) site exclusive_nil
    (fun _ _ hs hc => hc.exclusive hs hsite) calls

/-! ## Invocations -/

theorem toggle_of_denotes (hl : s.Denotes locator i e) (hk : e.kind.isToggle = true)
    (command : String) (checked : Bool) :
    toggle command checked locator s = (.ok (), s.setChecked checked i e) :=
  toggle_ok_iff.mpr (hl.exists_locate_iff.mpr ⟨hk, rfl⟩)

theorem invoke_check (hl : s.Denotes locator i e) (hk : e.kind.isToggle = true) :
    invoke site "check" [locator] s = (.ok .void, s.setChecked true i e) :=
  (invoke_action_ok_iff (a := .check locator) rfl).mpr ⟨rfl, toggle_of_denotes hl hk "check" true⟩

theorem invoke_uncheck (hl : s.Denotes locator i e) (hk : e.kind.isToggle = true) :
    invoke site "uncheck" [locator] s = (.ok .void, s.setChecked false i e) :=
  (invoke_action_ok_iff (a := .uncheck locator) rfl).mpr
    ⟨rfl, toggle_of_denotes hl hk "uncheck" false⟩

theorem invoke_click_ok_iff {v : Value} (hl : s.Denotes locator i e) :
    invoke site "click" [locator] s = (.ok v, s') ↔
      v = .void ∧ e.visible = true ∧ clickElement site i e s = (.ok (), s') := by
  rw [invoke_action_ok_iff (a := .click locator) rfl]
  refine and_congr_right fun _ => ?_
  show click site locator s = _ ↔ _
  rw [click_ok_iff, hl.exists_locate_iff]

theorem invoke_click_radio (hl : s.Denotes locator i r) (hk : r.kind = .radio)
    (hv : r.visible = true) :
    invoke site "click" [locator] s = (.ok .void, s.setChecked true i r) := by
  refine (invoke_click_ok_iff hl).mpr ⟨rfl, hv, ?_⟩
  rw [clickElement, hk]
  rfl

theorem invoke_click_checkbox (hl : s.Denotes locator i e) (hk : e.kind = .checkbox)
    (hv : e.visible = true) :
    invoke site "click" [locator] s = (.ok .void, s.setChecked (!e.checked) i e) := by
  refine (invoke_click_ok_iff hl).mpr ⟨rfl, hv, ?_⟩
  rw [clickElement, hk]
  rfl

/-- In every state that a session can reach: checking a radio succeeds, and so does clicking it if
it can be seen; either takes the check from the rest of its group and changes nothing else.
Unchecking it changes only the radio itself, and a click on a checkbox that can be seen turns that
checkbox over.  There is at most one checked radio of a group, if no page declares more. -/
theorem radios_exclusive (site : Site) (calls : List Call) :
    let s := reached site calls
    (∀ locator i r, s.Denotes locator i r → r.kind = .radio →
      (∃ s', invoke site "check" [locator] s = (.ok .void, s') ∧ s.TakesCheck i r s') ∧
      (r.visible = true →
        ∃ s', invoke site "click" [locator] s = (.ok .void, s') ∧ s.TakesCheck i r s') ∧
      (r.visible = false → ∃ f, invoke site "click" [locator] s = (.error f, s)) ∧
      invoke site "uncheck" [locator] s =
        (.ok .void, { s with elements := s.elements.set i { r with checked := false } })) ∧
    ((∀ page ∈ site.pages, Exclusive page.elements) → Exclusive s.elements) ∧
    ∀ locator i e, s.Denotes locator i e → e.kind = .checkbox → e.visible = true →
      invoke site "click" [locator] s =
        (.ok .void, { s with elements := s.elements.set i { e with checked := !e.checked } }) := by
  intro s
  refine ⟨?_, fun hsite => exclusive_reached hsite calls, ?_⟩
  · intro locator i r hl hk
    have htoggle : r.kind.isToggle = true := Element.isToggle_iff.mpr (Or.inr hk)
    have htakes := setChecked_radio hl.getElem? hk
    refine ⟨⟨_, invoke_check hl htoggle, htakes⟩, ?_, ?_, ?_⟩
    · intro hv
      exact ⟨_, invoke_click_radio hl hk hv, htakes⟩
    · intro hv
      rcases h : invoke site "click" [locator] s with ⟨f | v, t⟩
      · obtain rfl : t = s := whole_invoke site (by simp) s f t h
        exact ⟨f, rfl⟩
      · obtain ⟨-, hv', -⟩ := (invoke_click_ok_iff hl).mp h
        cases hv.symm.trans hv'
    · rw [invoke_uncheck hl htoggle, setChecked_alone (Or.inr rfl)]
  · intro locator i e hl hk hv
    rw [invoke_click_checkbox hl hk hv, setChecked_alone (Or.inl (by rw [hk]; decide))]

/-- Two groups beside a checkbox of the same name as one of them: its radios change places, and the
rest keeps its checks. -/
theorem radios_exclusive_sizes :
    let site : Site :=
      { pages := [{ url := "/form", elements :=
          [{ id := some "small", name := some "size", kind := .radio, checked := true },
           { id := some "large", name := some "size", kind := .radio },
           { id := some "other", kind := .radio, checked := true },
           { id := some "gift", name := some "size", kind := .checkbox, checked := true }] }] }
    let calls : List Call := [.navigate "/form", .invoke "click" ["large"]]
    let s := reached site calls
    (∀ page ∈ site.pages, Exclusive page.elements) ∧ Exclusive s.elements ∧
      s.elements.map (·.checked) = [false, true, true, true] ∧
      ∃ s', invoke site "check" ["small"] s = (.ok .void, s') ∧ Exclusive s'.elements ∧
        s'.elements.map (·.checked) = [true, false, true, true] := by
  intro site calls s
  have hsite : ∀ page ∈ site.pages, Exclusive page.elements := by decide +kernel
  let small : Element := { id := some "small", name := some "size", kind := .radio }
  have hsmall : s.Denotes "small" 0 small := locate_ok_iff.mp (by rfl)
  obtain ⟨hradio, hexclusive, -⟩ := radios_exclusive site calls
  obtain ⟨⟨s', hcheck, htakes⟩, -⟩ := hradio "small" 0 small hsmall rfl
  have hs' : s' = (invoke site "check" ["small"] s).2 := congrArg Prod.snd hcheck.symm
  refine ⟨hsite, hexclusive hsite, by decide +kernel, s', hcheck, ?_, ?_⟩
  · exact htakes.exclusive (hexclusive hsite)
  · rw [hs']
    decide +kernel

end Session

end TableTest
