/-
`TableTest.Proofs.Action` — when an action succeeds

For each action: exactly when it succeeds, and the session after it.  Going to a page leaves the
session as it was if there is no such page; going back does not, as it takes a page off the history
first.
-/
import TableTest.Proofs.Procedure
import TableTest.Session.Command

namespace TableTest

/-! ## Pages -/

namespace Site

theorem locate_ok {site : Site} {target url : String} {page : Page}
    (h : site.locate target = .ok (url, page)) :
    url = site.resolveUrl target ∧ site.page? url = some page := by
  unfold locate at h
  cases hp : site.page? (site.resolveUrl target) with
  | none => simp [hp] at h
  | some p =>
      simp only [hp, Except.ok.injEq, Prod.mk.injEq] at h
      obtain ⟨rfl, rfl⟩ := h
      exact ⟨rfl, hp⟩

theorem locate_error {site : Site} {target : String} {e : Failure}
    (h : site.locate target = .error e) :
    e = .navigation (site.resolveUrl target) "no such page" := by
  unfold locate at h
  cases hp : site.page? (site.resolveUrl target) with
  | none => simpa [hp, eq_comm] using h
  | some p => simp [hp] at h

theorem page?_some {site : Site} {url : String} {page : Page} (h : site.page? url = some page) :
    page ∈ site.pages ∧ page.url = url :=
  ⟨List.mem_of_find?_eq_some h, by simpa using List.find?_some h⟩

end Site

namespace Session

variable {site : Site} {s s' : Session}

theorem load_ok_iff {target : String} :
    load site target s = (.ok (), s') ↔
      ∃ url page, site.locate target = .ok (url, page) ∧ s' = s.arrive url page := by
  unfold load
  rw [Procedure.bind_reading_ok_iff]
  constructor
  · rintro ⟨⟨url, page⟩, hl, h⟩
    exact ⟨url, page, hl, Procedure.change_ok_iff.mp h⟩
  · rintro ⟨url, page, hl, rfl⟩
    exact ⟨(url, page), hl, rfl⟩

theorem load_of_error {target : String} {e : Failure} (hl : site.locate target = .error e) :
    load site target s = (.error e, s) := by
  refine Procedure.bind_of_error ?_
  rw [Procedure.reading, hl]

theorem openFor_ok_iff {command target : String} :
    openFor command site target s = (.ok (), s') ↔
      ∃ url page, site.locate target = .ok (url, page) ∧ s' = s.arrive url page := by
  rw [openFor, Procedure.mapError_ok_iff, load_ok_iff]

theorem page_ok {page : Page} (h : s.page site = .ok page) :
    ∃ url, s.location = some url ∧ site.page? url = some page := by
  unfold Session.page at h
  cases hp : s.location.bind site.page? with
  | none => simp [hp, refuse] at h
  | some p =>
      simp only [hp, Except.ok.injEq] at h
      exact h ▸ Option.bind_eq_some_iff.mp hp

theorem page_of_location {url : String} {page : Page} (hl : s.location = some url)
    (hp : site.page? url = some page) : s.page site = .ok page := by
  simp [Session.page, hl, hp]

/-! ## Elements -/

theorem locate_ok {locator : String} {i : Nat} {e : Element} (h : s.locate locator = .ok (i, e)) :
    s.elements[i]? = some e := by
  obtain ⟨j, -, hj⟩ := Except.bind_ok_iff.mp h
  split at hj
  · next he =>
    cases hj
    exact he
  · cases hj

/-! ## When an action succeeds, and what it does then -/

theorem chosen?_mem {options : List String} {option label : String}
    (h : chosen? options option = some label) : label ∈ options := by
  unfold chosen? at h
  split at h
  · obtain ⟨i, -, hi⟩ := Option.bind_eq_some_iff.mp h
    exact List.mem_of_getElem? hi
  all_goals exact List.mem_of_find?_eq_some h

theorem toggle_ok_iff {command locator : String} {checked : Bool} :
    toggle command checked locator s = (.ok (), s') ↔
      ∃ i e, s.locate locator = .ok (i, e) ∧ e.kind.isToggle = true ∧
        s' = s.setChecked checked i e := by
  unfold toggle
  rw [Procedure.bind_reading_ok_iff]
  constructor
  · rintro ⟨⟨i, e⟩, hl, h⟩
    dsimp only at h
    split at h
    · next hk => exact ⟨i, e, hl, hk, Procedure.change_ok_iff.mp h⟩
    · cases h
  · rintro ⟨i, e, hl, hk, rfl⟩
    refine ⟨(i, e), hl, ?_⟩
    dsimp only
    rw [if_pos hk]
    rfl

theorem click_ok_iff {locator : String} :
    click site locator s = (.ok (), s') ↔
      ∃ i e, s.locate locator = .ok (i, e) ∧ e.visible = true ∧
        clickElement site i e s = (.ok (), s') := by
  unfold click
  rw [Procedure.bind_reading_ok_iff]
  constructor
  · rintro ⟨⟨i, e⟩, hl, h⟩
    dsimp only at h
    split at h
    · next hv => exact ⟨i, e, hl, hv, h⟩
    · cases h
  · rintro ⟨i, e, hl, hv, h⟩
    refine ⟨(i, e), hl, ?_⟩
    dsimp only
    rw [if_pos hv]
    exact h

theorem submit_ok_iff {locator : String} :
    submit site locator s = (.ok (), s') ↔
      ∃ e, s.element locator = .ok e ∧ follow "submit" site e.href s = (.ok (), s') :=
  Procedure.bind_reading_ok_iff

theorem typeInto_ok_iff {locator text : String} :
    typeInto locator text s = (.ok (), s') ↔
      ∃ i e, s.locate locator = .ok (i, e) ∧ e.kind.isField = true ∧ e.kind.isToggle = false ∧
        e.editable = true ∧ s' = s.setElement i { e with value := text } := by
  unfold typeInto
  rw [Procedure.bind_reading_ok_iff]
  constructor
  · rintro ⟨⟨i, e⟩, hl, h⟩
    dsimp only at h
    split at h
    · cases h
    · next hk =>
      split at h
      · cases h
      · next he =>
        obtain ⟨hf, ht⟩ : e.kind.isField = true ∧ e.kind.isToggle = false := by simpa using hk
        exact ⟨i, e, hl, hf, ht, by simpa using he, Procedure.change_ok_iff.mp h⟩
  · rintro ⟨i, e, hl, hf, ht, he, rfl⟩
    exact ⟨(i, e), hl, by simp [hf, ht, he, Procedure.change]⟩

theorem selectOption_ok_iff {locator option : String} :
    selectOption locator option s = (.ok (), s') ↔
      ∃ i e label, s.locate locator = .ok (i, e) ∧ e.kind = .select ∧
        chosen? e.options option = some label ∧
        s' = s.setElement i { e with selected := some label } := by
  unfold selectOption
  rw [Procedure.bind_reading_ok_iff]
  constructor
  · rintro ⟨⟨i, e⟩, hl, h⟩
    dsimp only at h
    split at h
    · next hk =>
      cases hc : chosen? e.options option with
      | none => rw [hc] at h; cases h
      | some label =>
          rw [hc] at h
          exact ⟨i, e, label, hl, by simpa using hk, hc, Procedure.change_ok_iff.mp h⟩
    · cases h
  · rintro ⟨i, e, label, hl, hk, hc, rfl⟩
    exact ⟨(i, e), hl, by simp [hk, hc, Procedure.change]⟩

theorem takeLatest_ok_iff {latest : String} :
    takeLatest s = (.ok latest, s') ↔
      ∃ rest, s.history = latest :: rest ∧ s' = { s with history := rest } := by
  unfold takeLatest
  split
  · next hh => simp [hh, refuse]
  · next u rest hh =>
    constructor
    · intro h
      cases h
      exact ⟨rest, hh, rfl⟩
    · rintro ⟨rest', hh', rfl⟩
      cases hh.symm.trans hh'
      rfl

/-- Going back takes a page off the history, and then another one: the page that is left, which
arriving has put there, or, if the session was nowhere, the one before. -/
theorem goBack_ok_iff : goBack site s = (.ok (), s') ↔
    ∃ latest rest url page, s.history = latest :: rest ∧
      site.locate latest = .ok (url, page) ∧
      s' = { s.arrive url page with history := (s.location.toList ++ rest).tail } := by
  unfold goBack
  rw [Procedure.bind_ok_iff]
  constructor
  · rintro ⟨latest, t, htake, h⟩
    obtain ⟨rest, hh, rfl⟩ := takeLatest_ok_iff.mp htake
    obtain ⟨⟨⟩, t, hopen, h⟩ := Procedure.bind_ok_iff.mp h
    obtain ⟨url, page, hl, rfl⟩ := openFor_ok_iff.mp hopen
    exact ⟨latest, rest, url, page, hh, hl, Procedure.change_ok_iff.mp h⟩
  · rintro ⟨latest, rest, url, page, hh, hl, rfl⟩
    refine ⟨latest, _, takeLatest_ok_iff.mpr ⟨rest, hh, rfl⟩, ?_⟩
    exact Procedure.bind_ok_iff.mpr ⟨(), _, openFor_ok_iff.mpr ⟨url, page, hl, rfl⟩, rfl⟩

/-! ## Going to a page that is not there -/

theorem whole_load (site : Site) (target : String) : (load site target).Whole :=
  Procedure.whole_bind_reading fun _ => Procedure.whole_change _

theorem whole_openFor (command : String) (site : Site) (target : String) :
    (openFor command site target).Whole :=
  (whole_load site target).mapError _

/-- Going back fails without a history, or if the latest page of it cannot be shown; that page
is then gone from the history. -/
theorem goBack_error {e : Failure} (h : goBack site s = (.error e, s')) :
    (s.history = [] ∧ s' = s) ∨
      ∃ latest rest e', s.history = latest :: rest ∧ site.locate latest = .error e' ∧
        s' = { s with history := rest } := by
  unfold goBack at h
  rcases hh : s.history with _ | ⟨latest, rest⟩
  · have htake : takeLatest s = (refuse "goBack" "no previous page", s) := by
      rw [takeLatest, hh]
    rw [Procedure.bind_of_error htake] at h
    cases h
    exact Or.inl ⟨rfl, rfl⟩
  · rw [Procedure.bind_of_ok (takeLatest_ok_iff.mpr ⟨rest, hh, rfl⟩)] at h
    rcases Procedure.bind_error_iff.mp h with hopen | ⟨⟨⟩, t, -, hchange⟩
    · have hs' := whole_openFor _ _ _ _ _ _ hopen
      obtain ⟨e₁, hload, -⟩ := Procedure.mapError_error_iff.mp hopen
      rcases Procedure.bind_error_iff.mp hload with hl | ⟨_, t, -, hchange⟩
      · exact Or.inr ⟨latest, rest, e₁, rfl, congrArg Prod.fst hl, hs'⟩
      · cases hchange
    · cases hchange

end Session

end TableTest
