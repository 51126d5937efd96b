/-
`TableTest.Proofs.SessionInvariant` — what holds of a session in every state

Whatever is called on a new session, and whether it succeeds or not: without a page there is
neither history nor element, every address that the session remembers is that of a page of the
site, and the elements it works on are those that the first page at its address declares, but
for what typing, checking and selecting may change.  So a locator denotes the same element as
on the page as declared, and what only reads the page cannot fail once there is one.
-/
import Mathlib.Data.List.Forall2
import TableTest.Proofs.SessionChange

/-! ## Lists that agree place by place -/

namespace List

variable {α β : Type} {R : α → β → Prop}

theorem Forall₂.exists_left {i : Nat} {b : β} : ∀ {as : List α} {bs : List β},
    Forall₂ R as bs → bs[i]? = some b → ∃ a, as[i]? = some a ∧ R a b := by
  intro as bs h
  induction h generalizing i with
  | nil => intro hb; simp at hb
  | cons hab _ ih =>
      intro hb
      cases i with
      | zero => exact ⟨_, rfl, Option.some.inj hb ▸ hab⟩
      | succ i => exact ih hb

theorem Forall₂.set_right {i : Nat} {a : α} {b : β} : ∀ {as : List α} {bs : List β},
    Forall₂ R as bs → as[i]? = some a → R a b → Forall₂ R as (bs.set i b) := by
  intro as bs h
  induction h generalizing i with
  | nil => intro _ _; exact .nil
  | cons hab hrest ih =>
      intro ha hb
      cases i with
      | zero => exact .cons (Option.some.inj ha ▸ hb) hrest
      | succ i => exact .cons hab (ih ha hb)

theorem Forall₂.findIdx?_eq {p : α → Bool} {q : β → Bool} (hpq : ∀ a b, R a b → p a = q b) :
    ∀ {as : List α} {bs : List β}, Forall₂ R as bs → as.findIdx? p = bs.findIdx? q := by
  intro as bs h
  induction h with
  | nil => rfl
  | cons hab _ ih => rw [findIdx?_cons, findIdx?_cons, hpq _ _ hab, ih]

end List

namespace TableTest

/-! ## Elements -/

/-- What an element that a session works on still has of the element that the page declares.
Only what typing, checking and selecting reach may differ, and the option chosen instead is one
of the element's own. -/
structure Element.Keeps (declared working : Element) : Prop where
  id : working.id = declared.id
  name : working.name = declared.name
  kind : working.kind = declared.kind
  text : working.text = declared.text
  visible : working.visible = declared.visible
  editable : working.editable = declared.editable
  options : working.options = declared.options
  href : working.href = declared.href
  attributes : working.attributes = declared.attributes
  value : working.value = declared.value ∨
    (declared.kind = .input ∨ declared.kind = .select) ∧ declared.editable = true
  checked : working.checked = declared.checked ∨
    declared.kind = .checkbox ∨ declared.kind = .radio
  selected : working.selected = declared.selected ∨
    declared.kind = .select ∧ ∃ label ∈ declared.options, working.selected = some label

namespace Element

variable {d w : Element}

theorem Keeps.refl (e : Element) : Keeps e e :=
  ⟨rfl, rfl, rfl, rfl, rfl, rfl, rfl, rfl, rfl, Or.inl rfl, Or.inl rfl, Or.inl rfl⟩

theorem isToggle_iff {k : ElementKind} : k.isToggle = true ↔ k = .checkbox ∨ k = .radio := by
  cases k <;> simp [ElementKind.isToggle]

theorem typable_iff {k : ElementKind} :
    k.isField = true ∧ k.isToggle = false ↔ k = .input ∨ k = .select := by
  cases k <;> simp [ElementKind.isField, ElementKind.isToggle]

theorem Keeps.check (h : Keeps d w) (hk : w.kind.isToggle = true) (checked : Bool) :
    Keeps d { w with checked } :=
  { h with checked := Or.inr (isToggle_iff.mp (h.kind ▸ hk)) }

theorem Keeps.type (h : Keeps d w) (hf : w.kind.isField = true) (ht : w.kind.isToggle = false)
    (he : w.editable = true) (text : String) : Keeps d { w with value := text } :=
  { h with value := Or.inr ⟨typable_iff.mp (h.kind ▸ ⟨hf, ht⟩), h.editable ▸ he⟩ }

theorem Keeps.select (h : Keeps d w) (hk : w.kind = .select) {label : String}
    (hl : label ∈ w.options) : Keeps d { w with selected := some label } :=
  { h with selected := Or.inr ⟨h.kind ▸ hk, label, h.options ▸ hl, rfl⟩ }

theorem Keeps.clearedIn (h : Keeps d w) (group : Option String) :
    Keeps d (Session.clearedIn group w) := by
  unfold Session.clearedIn
  split
  · next hg =>
    rw [Bool.and_eq_true, beq_iff_eq] at hg
    exact h.check (by rw [hg.1]; rfl) false
  · exact h

end Element

/-- Working elements stand where the declared ones do, and keep what they have. -/
abbrev Kept (declared working : List Element) : Prop := List.Forall₂ Element.Keeps declared working

theorem Kept.refl (es : List Element) : Kept es es :=
  List.forall₂_same.mpr fun e _ => Element.Keeps.refl e

/-- A locator denotes the same place on a page that is worked on as on the page as declared. -/
theorem Kept.find?_eq {declared working : List Element} (h : Kept declared working)
    (l : Locator) : l.find? working = l.find? declared := by
  have hid : ∀ v, Locator.findId? v working = Locator.findId? v declared := fun v =>
    (List.Forall₂.findIdx?_eq (fun a b hab => by rw [hab.id]) h).symm
  have hname : ∀ v, Locator.findName? v working = Locator.findName? v declared := fun v =>
    (List.Forall₂.findIdx?_eq (fun a b hab => by rw [hab.name]) h).symm
  cases l with
  | id v => exact hid v
  | name v => exact hname v
  | link v =>
      exact (List.Forall₂.findIdx?_eq (fun a b hab => by rw [hab.kind, hab.text]) h).symm
  | identifier v =>
      simp only [Locator.find?, hid, hname]

/-! ## The invariant -/

namespace Session

/-- What holds of a session on a site. -/
structure Valid (site : Site) (s : Session) : Prop where
  /-- A session without a page has nothing else. -/
  blank : s.location = none → s.history = [] ∧ s.elements = []
  /-- The pages before the current one are pages of the site. -/
  remembered : ∀ url ∈ s.history, ∃ page, site.page? url = some page
  /-- The current page is one of the site, and the elements are its own. -/
  current : ∀ url, s.location = some url →
    ∃ page, site.page? url = some page ∧ Kept page.elements s.elements

variable {site : Site} {s : Session}

theorem valid_new (site : Site) : Valid site {} :=
  ⟨fun _ => ⟨rfl, rfl⟩, fun _ h => absurd h List.not_mem_nil, fun _ h => nomatch h⟩

theorem Valid.arrive (h : Valid site s) {target url : String} {page : Page}
    (hl : site.locate target = .ok (url, page)) : Valid site (s.arrive url page) := by
  have hp := (Site.locate_ok hl).2
  refine ⟨fun hn => (nomatch hn), fun u hu => ?_, fun u hu => ?_⟩
  · rcases List.mem_append.mp hu with hu | hu
    · obtain ⟨p, hp, -⟩ := h.current u (Option.mem_toList.mp hu)
      exact ⟨p, hp⟩
    · exact h.remembered u hu
  · cases hu
    exact ⟨page, hp, Kept.refl page.elements⟩

/-- The session with fewer pages to go back to. -/
theorem Valid.forget (h : Valid site s) {rest : List String} (hr : ∀ u ∈ rest, u ∈ s.history) :
    Valid site { s with history := rest } := by
  refine ⟨fun hn => ⟨?_, (h.blank hn).2⟩, fun u hu => h.remembered u (hr u hu), h.current⟩
  have hnone : ∀ u ∈ rest, u ∈ ([] : List String) := (h.blank hn).1 ▸ hr
  exact List.eq_nil_iff_forall_not_mem.mpr fun u hu => List.not_mem_nil (hnone u hu)

/-- The session with its elements edited. -/
theorem Valid.edit (h : Valid site s) {es : List Element} (hlen : es.length = s.elements.length)
    (hes : ∀ page : Page, Kept page.elements s.elements → Kept page.elements es) :
    Valid site { s with elements := es } := by
  refine ⟨fun hn => ⟨(h.blank hn).1, ?_⟩, h.remembered, fun u hu => ?_⟩
  · exact List.eq_nil_of_length_eq_zero (by rw [hlen, (h.blank hn).2]; rfl)
  · obtain ⟨page, hp, hk⟩ := h.current u hu
    exact ⟨page, hp, hes page hk⟩

/-- The session with one element edited. -/
theorem Valid.setElement (h : Valid site s) {i : Nat} {e e' : Element}
    (hi : s.elements[i]? = some e) (hk : ∀ d : Element, d.Keeps e → d.Keeps e') :
    Valid site (s.setElement i e') :=
  h.edit List.length_set fun page hkept => by
    obtain ⟨d, hd, hde⟩ := hkept.exists_left hi
    exact hkept.set_right hd (hk d hde)

theorem Valid.setChecked (h : Valid site s) {i : Nat} {e : Element} (checked : Bool)
    (hi : s.elements[i]? = some e) (hk : e.kind.isToggle = true) :
    Valid site (s.setChecked checked i e) := by
  unfold Session.setChecked
  split
  · refine h.edit (by simp [clearGroup]) fun page hkept => ?_
    obtain ⟨d, hd, hde⟩ := hkept.exists_left hi
    refine List.Forall₂.set_right ?_ hd (hde.check hk checked)
    exact List.forall₂_map_right_iff.mpr (hkept.imp fun a b hab => hab.clearedIn e.name)
  · exact h.setElement hi fun d hd => hd.check hk checked

theorem Valid.onward (h : Valid site s) {s' : Session} (hc : Onward site s s') :
    Valid site s' := by
  cases hc with
  | stay => exact h
  | arrive hl => exact h.arrive hl
  | refresh hp =>
      obtain ⟨url, hu, hpage⟩ := page_ok hp
      refine ⟨fun hn => (nomatch hu.symm.trans hn), h.remembered, fun u hu' => ?_⟩
      cases hu.symm.trans hu'
      exact ⟨_, hpage, Kept.refl _⟩
  | check checked hi hk => exact h.setChecked checked hi hk
  | type text hi hf ht he => exact h.setElement hi fun d hd => hd.type hf ht he text
  | select hi hk hl => exact h.setElement hi fun d hd => hd.select hk hl
  | cookies cookies => exact ⟨h.blank, h.remembered, h.current⟩

/-- Every change keeps the invariant. -/
theorem Valid.change (h : Valid site s) {s' : Session} (hc : Change site s s') :
    Valid site s' := by
  cases hc with
  | onward hc => exact h.onward hc
  | back hh hl =>
      refine (h.arrive hl).forget fun u hu => ?_
      rcases List.mem_append.mp (List.mem_of_mem_tail hu) with hu | hu
      · exact List.mem_append_left _ hu
      · exact List.mem_append_right _ (hh ▸ List.mem_cons_of_mem _ hu)
  | forget hh _ => exact h.forget fun u hu => hh ▸ List.mem_cons_of_mem _ hu

theorem valid_reached (site : Site) (calls : List Call) : Valid site (reached site calls) :=
  reached_of_change site (valid_new site) (fun _ _ h hc => h.change hc) calls

/-! ## Once a page has been loaded -/

theorem Onward.location_ne_none {s' : Session} (hc : Onward site s s')
    (h : s.location ≠ none) : s'.location ≠ none := by
  cases hc with
  | arrive _ => exact fun hn => (nomatch hn)
  | check checked _ _ => unfold Session.setChecked; split <;> exact h
  | stay | refresh _ | type _ _ _ _ _ | select _ _ _ | cookies _ => exact h

theorem Change.location_ne_none {s' : Session} (hc : Change site s s')
    (h : s.location ≠ none) : s'.location ≠ none := by
  cases hc with
  | onward hc => exact hc.location_ne_none h
  | back _ _ => exact fun hn => (nomatch hn)
  | forget _ _ => exact h

/-- A session that is at a page stays at some page. -/
theorem location_foldl_ne_none (site : Site) (h : s.location ≠ none) (calls : List Call) :
    (calls.foldl (after site) s).location ≠ none := by
  induction calls generalizing s with
  | nil => exact h
  | cons call calls ih => exact ih ((after_change site s call).location_ne_none h)

/-- What reads the current page, and starting it afresh, succeed at a page of the site. -/
theorem reading_at {url : String} {page : Page} (hl : s.location = some url)
    (hp : site.page? url = some page) :
    invoke site "getTitle" [] s = (.ok (.text page.title), s) ∧
      invoke site "getBodyText" [] s = (.ok (.text page.text), s) ∧
      (∀ pattern, invoke site "isTextPresent" [pattern] s =
        (.ok (.flag (s.hasText page pattern)), s)) ∧
      invoke site "refresh" [] s = (.ok .void, { s with elements := page.elements }) := by
  have hpage := page_of_location hl hp
  refine ⟨?_, ?_, fun pattern => ?_, ?_⟩
  · show (s.ask site .title, s) = _
    rw [ask, hpage]
    rfl
  · show (s.ask site .bodyText, s) = _
    rw [ask, hpage]
    rfl
  · show (s.ask site (.textPresent pattern), s) = _
    rw [ask, hpage]
    rfl
  · show Command.answer site (.action .refresh) s = _
    refine Procedure.bind_of_ok (a := ()) ?_
    exact Procedure.bind_reading_ok_iff.mpr ⟨page, hpage, rfl⟩

/-- A new session, after any calls.  Without a page there is neither history nor element; the
current page and those before it are pages of the site; the elements are those that the page
declares, as far as nothing else may change them, and every locator denotes among them what it
denotes on the page as declared.  Once a page has been loaded, reading it and starting it afresh
do not fail, and starting afresh gives the elements back as declared. -/
theorem reached_consistent (site : Site) (calls : List Call) :
    let s := reached site calls
    (s.location = none → s.history = [] ∧ s.elements = []) ∧
    (∀ url, s.location = some url ∨ url ∈ s.history → ∃ page ∈ site.pages, page.url = url) ∧
    (∀ url, s.location = some url → ∃ page, site.page? url = some page ∧
      Kept page.elements s.elements ∧
      ∀ l : Locator, l.find? s.elements = l.find? page.elements) ∧
    (∀ before, before <+: calls → (reached site before).location ≠ none →
      ∃ url page, s.location = some url ∧ site.page? url = some page ∧
        invoke site "getTitle" [] s = (.ok (.text page.title), s) ∧
        invoke site "getBodyText" [] s = (.ok (.text page.text), s) ∧
        (∀ pattern, invoke site "isTextPresent" [pattern] s =
          (.ok (.flag (s.hasText page pattern)), s)) ∧
        invoke site "refresh" [] s = (.ok .void, { s with elements := page.elements })) := by
  intro s
  have hv : Valid site s := valid_reached site calls
  refine ⟨hv.blank, fun url hurl => ?_, fun url hurl => ?_, fun before hb hloaded => ?_⟩
  · have hpage : ∃ page, site.page? url = some page := by
      rcases hurl with hurl | hurl
      · obtain ⟨page, hp, -⟩ := hv.current url hurl
        exact ⟨page, hp⟩
      · exact hv.remembered url hurl
    obtain ⟨page, hp⟩ := hpage
    exact ⟨page, Site.page?_some hp⟩
  · obtain ⟨page, hp, hk⟩ := hv.current url hurl
    exact ⟨page, hp, hk, hk.find?_eq⟩
  · obtain ⟨later, rfl⟩ := hb
    have hne : s.location ≠ none := by
      simpa [s, reached] using location_foldl_ne_none site hloaded later
    obtain ⟨url, hurl⟩ := Option.ne_none_iff_exists'.mp hne
    obtain ⟨page, hp, -⟩ := hv.current url hurl
    exact ⟨url, page, hurl, hp, reading_at hurl hp⟩

end Session

end TableTest
