/-
`TableTest.Proofs.GoingBack` — going back undoes going to a page

A session remembers the addresses of the pages it has left, and going back hands the latest of
them to the same search that a target of a script goes through.  That search resolves it against
the base address of the site, though it has been resolved before.  So going back finds the page
exactly if its address stands for itself: always on a settled site, and on no other site for an
address that begins with a slash.
-/
import TableTest.Proofs.Address
import TableTest.Proofs.SessionFailure
import TableTest.Proofs.SessionInvariant

namespace TableTest.Session

variable {site : Site} {s s' : Session}

/-! ## What a session remembers -/

/-- The session is at an address or has left it for another page. -/
def Remembers (s : Session) (url : String) : Prop := s.location = some url ∨ url ∈ s.history

/-- Each change either goes to a page or leaves the location and the history alone. -/
theorem Onward.location_history (hc : Onward site s s') :
    (s'.location = s.location ∧ s'.history = s.history) ∨
      ∃ target url page, site.locate target = .ok (url, page) ∧ s' = s.arrive url page := by
  cases hc with
  | arrive hl => exact Or.inr ⟨_, _, _, hl, rfl⟩
  | check checked _ _ => unfold Session.setChecked; split <;> exact Or.inl ⟨rfl, rfl⟩
  | stay | refresh _ | type _ _ _ _ _ | select _ _ _ | cookies _ => exact Or.inl ⟨rfl, rfl⟩

/-- An address that the session did not remember before is one that a search has led to. -/
theorem Change.remembers (hc : Change site s s') {u : String} (hu : s'.Remembers u) :
    s.Remembers u ∨ ∃ target page, site.locate target = .ok (u, page) := by
  cases hc with
  | onward hc =>
      rcases hc.location_history with ⟨hl, hh⟩ | ⟨target, url, page, hl, rfl⟩
      · rw [Remembers, hl, hh] at hu
        exact Or.inl hu
      · rcases hu with hu | hu
        · cases hu
          exact Or.inr ⟨target, page, hl⟩
        · rcases List.mem_append.mp hu with hu | hu
          · exact Or.inl (Or.inl (Option.mem_toList.mp hu))
          · exact Or.inl (Or.inr hu)
  | @back latest url rest page hh hl =>
      rcases hu with hu | hu
      · cases hu
        exact Or.inr ⟨latest, page, hl⟩
      · rcases List.mem_append.mp (List.mem_of_mem_tail hu) with hu | hu
        · exact Or.inl (Or.inl (Option.mem_toList.mp hu))
        · exact Or.inl (Or.inr (hh ▸ List.mem_cons_of_mem _ hu))
  | forget hh _ => exact Or.inl (hu.imp_right fun hu => hh ▸ List.mem_cons_of_mem _ hu)

theorem located_of_remembers (site : Site) (calls : List Call) :
    ∀ u, (reached site calls).Remembers u → ∃ target page, site.locate target = .ok (u, page) := by
  refine reached_of_change (P := fun s => ∀ u, s.Remembers u →
    ∃ target page, site.locate target = .ok (u, page)) site ?_ ?_ calls
  · rintro u (hu | hu)
    · cases hu
    · cases hu
  · intro s s' hs hc u hu
    rcases hc.remembers hu with hu | hlocated
    · exact hs u hu
    · exact hlocated

/-- On a settled site what the session remembers stands for itself. -/
theorem stands_of_remembers (hsite : site.Settled) (calls : List Call) {u : String}
    (hu : (reached site calls).Remembers u) : site.resolveUrl u = u := by
  obtain ⟨target, page, hl⟩ := located_of_remembers site calls u hu
  rw [(Site.locate_ok hl).1]
  exact hsite.resolveUrl_resolveUrl target

/-! ## Back to the page that was left -/

/-- A call, other than going back, that adds to the history has arrived at a page. -/
theorem arrived_of_history {call : Call} (hcall : call ≠ .invoke "goBack" [])
    (hmoved : (s.after site call).history ≠ s.history) :
    ∃ target url page, site.locate target = .ok (url, page) ∧
      s.after site call = s.arrive url page := by
  rcases (after_onward site s hcall).location_history with ⟨-, hh⟩ | harrived
  · exact absurd hh hmoved
  · exact harrived

theorem goBack_of_arrive {u url : String} {page left : Page} (hu : s.location = some u)
    (hl : site.locate u = .ok (url, page)) (there : String) :
    invoke site "goBack" [] (s.arrive there left) =
      (.ok .void, { s with location := some url, elements := page.elements }) := by
  have hback : goBack site (s.arrive there left) =
      (.ok (), { s with location := some url, elements := page.elements }) := by
    refine goBack_ok_iff.mpr ⟨u, s.history, url, page, ?_, hl, rfl⟩
    show s.location.toList ++ s.history = u :: s.history
    rw [hu]
    rfl
  rw [invoke_goBack, Procedure.bind_of_ok hback]
  rfl

/-- Going back right after the session has left the page at `u` restores it exactly if `u` stands
for itself. -/
theorem goBack_restores_iff (hv : Valid site s) {u : String} (hu : s.location = some u)
    (there : String) (left : Page) : ∃ page, site.page? u = some page ∧
      (invoke site "goBack" [] (s.arrive there left) =
          (.ok .void, { s with elements := page.elements }) ↔ site.resolveUrl u = u) := by
  obtain ⟨page, hp, -⟩ := hv.current u hu
  refine ⟨page, hp, ?_⟩
  constructor
  · intro hback
    -- it has arrived where the search led, and that is `u`
    have hgo : goBack site (s.arrive there left) =
        (.ok (), { s with elements := page.elements }) := by
      rw [invoke_goBack] at hback
      obtain ⟨⟨⟩, t, hgo, hpure⟩ := Procedure.bind_ok_iff.mp hback
      cases hpure
      exact hgo
    obtain ⟨latest, rest, url, page', hh, hl, hs⟩ := goBack_ok_iff.mp hgo
    have hlatest : u :: s.history = latest :: rest := by
      rw [← hh]
      show _ = s.location.toList ++ s.history
      rw [hu]
      rfl
    have hlocation : some u = some url := hu.symm.trans (congrArg Session.location hs)
    rw [List.cons.injEq] at hlatest
    rw [hlatest.1, ← (Site.locate_ok hl).1, ← hlatest.1]
    exact (Option.some.inj hlocation).symm
  · intro hself
    have hl : site.locate u = .ok (u, page) := by
      simp [Site.locate, hself, hp]
    rw [goBack_of_arrive hu hl there, ← hu]

/-- Going back fails exactly if there is nothing to go back to or the search for it finds no
page. -/
theorem goBack_fails_iff :
    (∃ e, s.outcome site (.invoke "goBack" []) = .error e) ↔
      ∀ u rest, s.history = u :: rest → site.page? (site.resolveUrl u) = none := by
  constructor
  · rintro ⟨e, he⟩ u rest hh
    have herr : (invoke site "goBack" [] s).1 = .error e := Except.map_error_iff.mp he
    have hback := Procedure.bind_pure_error_iff.mp (Prod.ext herr rfl)
    rcases goBack_error hback with ⟨hnil, -⟩ | ⟨latest, rest', e', hh', hl, -⟩
    · rw [hnil] at hh
      cases hh
    · cases hh.symm.trans hh'
      cases hp : site.page? (site.resolveUrl u) with
      | none => rfl
      | some page => simp [Site.locate, hp] at hl
  · intro hnone
    cases hout : s.outcome site (.invoke "goBack" []) with
    | error e => exact ⟨e, rfl⟩
    | ok _ =>
        obtain ⟨v, hv, -⟩ := Except.map_ok_iff.mp hout
        obtain ⟨⟨⟩, t, hgo, -⟩ := Procedure.bind_ok_iff.mp (Prod.ext hv rfl)
        obtain ⟨latest, rest, url, page, hh, hl, -⟩ := goBack_ok_iff.mp hgo
        obtain ⟨rfl, hp⟩ := Site.locate_ok hl
        cases (hnone latest rest hh).symm.trans hp

/-- On a settled site, in every state that a session can reach: whatever call has added the
current page to the history, going back right after it gives the session back as it was, with the
elements of the page as declared; and going back fails only if there is nothing to go back to. -/
theorem goBack_undoes_load {site : Site} (hsite : site.Settled) (calls : List Call) :
    let s := reached site calls
    (∀ u call, s.location = some u → call ≠ .invoke "goBack" [] →
      (s.after site call).history ≠ s.history →
      ∃ page, site.page? u = some page ∧
        invoke site "goBack" [] (s.after site call) =
          (.ok .void, { s with elements := page.elements })) ∧
    ((∃ e, s.outcome site (.invoke "goBack" []) = .error e) ↔ s.history = []) := by
  intro s
  refine ⟨fun u call hu hcall hmoved => ?_, ?_⟩
  · obtain ⟨target, there, left, -, harrived⟩ := arrived_of_history hcall hmoved
    obtain ⟨page, hp, hback⟩ :=
      goBack_restores_iff (valid_reached site calls) hu there left
    rw [harrived]
    exact ⟨page, hp, hback.mpr (stands_of_remembers hsite calls (Or.inl hu))⟩
  · rw [goBack_fails_iff]
    constructor
    · intro hnone
      rcases hh : s.history with _ | ⟨u, rest⟩
      · rfl
      · have hu : s.Remembers u := Or.inr (hh ▸ List.mem_cons_self)
        obtain ⟨target, page, hl⟩ := located_of_remembers site calls u hu
        have hlost := hnone u rest hh
        rw [stands_of_remembers hsite calls hu, (Site.locate_ok hl).2] at hlost
        cases hlost
    · intro hnil u rest hh
      rw [hnil] at hh
      cases hh

/-- What has been typed before following a link is gone after going back; all else is as it was. -/
theorem goBack_undoes_load_link :
    let site : Site :=
      { baseUrl := some "http://shop/"
        pages := [{ url := "http://shop/done" },
          { url := "http://shop/form", elements :=
              [{ id := some "q", kind := .input, value := "declared" },
               { id := some "next", kind := .link, href := some "/done" }] }] }
    let s := reached site [.navigate "/done", .navigate "/form", .invoke "type" ["q", "typed"]]
    let call : Call := .invoke "click" ["next"]
    site.Settled ∧ s.location = some "http://shop/form" ∧ call ≠ .invoke "goBack" [] ∧
      (s.after site call).history ≠ s.history ∧ s.elements.map (·.value) = ["typed", ""] ∧
      ∃ page, site.page? "http://shop/form" = some page ∧
        page.elements.map (·.value) = ["declared", ""] ∧
        invoke site "goBack" [] (s.after site call) =
          (.ok .void, { s with elements := page.elements }) := by
  intro site s call
  have hsite : site.Settled := by
    intro base hbase
    cases hbase
    decide +kernel
  have hat : s.location = some "http://shop/form" := by decide +kernel
  have hmoved : (s.after site call).history ≠ s.history := by decide +kernel
  refine ⟨hsite, hat, by decide, hmoved, by decide +kernel, ?_⟩
  obtain ⟨page, hp, hback⟩ := (goBack_undoes_load hsite _).1 _ call hat (by decide) hmoved
  have hvalues : (site.page? "http://shop/form").map (·.elements.map (·.value)) =
      some ["declared", ""] := by decide +kernel
  rw [hp] at hvalues
  exact ⟨page, hp, Option.some.inj hvalues, hback⟩

/-- Under a base address that begins with a slash the page that was left is looked for elsewhere:
going back fails, and the page is gone from the history. -/
theorem goBack_resolves_twice :
    let site : Site :=
      { baseUrl := some "/app", pages := [{ url := "/app/a" }, { url := "/app/b" }] }
    let s := reached site [.navigate "/a"]
    let call : Call := .navigate "/b"
    s.location = some "/app/a" ∧ (s.after site call).location = some "/app/b" ∧
      (s.after site call).history = ["/app/a"] ∧
      invoke site "goBack" [] (s.after site call) =
        (.error (.commandFailed "goBack"
            "Failed to navigate to '/app/app/a': no such page"),
          { location := some "/app/b", history := [] }) := by
  intro site s call
  refine ⟨?_, ?_, ?_, ?_⟩
  · decide +kernel
  · decide +kernel
  · decide +kernel
  · decide +kernel

end TableTest.Session
