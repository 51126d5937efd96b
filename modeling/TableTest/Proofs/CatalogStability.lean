/-
`TableTest.Proofs.CatalogStability` — what making a catalog does not depend on

A catalog is made of a plan, so two catalogs that are made of one plan, in whatever order, are one
catalog.  Capabilities without a common name are planned each by itself, and their order does not
matter.  What is planned for the first capabilities of a list comes first in the plan of the list,
so a catalog only grows when capabilities are put behind them.  A reserved name hides a capability
as taking it out of the list would; it does more than that only if it is the name of a check, or of
a command that waits, of a capability that is not hidden.
-/
import TableTest.Proofs.Registration

namespace TableTest.Catalog

/-! ## One plan makes one catalog -/

theorem Holds.eq_of_perm {catalog catalog' : Catalog} {es es' : List Entry}
    (h : catalog.Holds es) (h' : catalog'.Holds es') (hp : es.Perm es') : catalog = catalog' := by
  obtain ⟨⟨entries⟩⟩ := catalog
  obtain ⟨⟨entries'⟩⟩ := catalog'
  have hentries : entries.Perm entries' := h.perm.trans ((hp.map _).trans h'.perm.symm)
  have hbefore : entries.Pairwise (·.1 < ·.1) := List.pairwise_map.mp h.ascending
  have hbefore' : entries'.Pairwise (·.1 < ·.1) := List.pairwise_map.mp h'.ascending
  obtain rfl := hentries.eq_of_pairwise
    (fun _ _ _ _ hlt hgt => absurd hgt (String.lt_asymm hlt)) hbefore hbefore'
  rfl

theorem Free.perm {reserved : List String} {es es' : List Entry} (h : Free reserved [] es)
    (hp : es.Perm es') : Free reserved [] es' := by
  rw [free_iff] at h ⊢
  exact ⟨(hp.map _).nodup_iff.mp h.1, fun e he => h.2 e (hp.mem_iff.mpr he)⟩

/-! ## The order of the capabilities -/

theorem usableAfter_of_nodup (reserved : List String) (cs before : List Capability)
    (hnd : ((before ++ cs).map (·.name)).Nodup) :
    usableAfter reserved before cs = cs.filter fun c => c.name ∉ reserved ∧ c.arity ≤ 2 := by
  induction cs generalizing before with
  | nil => rfl
  | cons c cs ih =>
      have hnew : c.name ∉ before.map (·.name) := by
        intro hin
        rw [List.map_append, List.nodup_append] at hnd
        exact hnd.2.2 c.name hin c.name (by simp) rfl
      rw [usableAfter_cons, List.filter_cons, ih (before ++ [c]) (by simpa using hnd)]
      simp only [hnew, not_false_eq_true, true_and, decide_eq_true_eq]

theorem plan_perm {cs shuffled : List Capability} (settings : CatalogSettings)
    (hp : shuffled.Perm cs) (hnd : (cs.map (·.name)).Nodup) :
    (plan settings shuffled).Perm (plan settings cs) := by
  have hnd' : (shuffled.map (·.name)).Nodup := (hp.map _).nodup_iff.mpr hnd
  unfold plan usable
  rw [usableAfter_of_nodup _ cs [] hnd, usableAfter_of_nodup _ shuffled [] hnd']
  exact (hp.filter _).flatMap_right _

/-! ## More capabilities -/

theorem usableAfter_append (reserved : List String) (cs more before : List Capability) :
    usableAfter reserved before (cs ++ more) =
      usableAfter reserved before cs ++ usableAfter reserved (before ++ cs) more := by
  induction cs generalizing before with
  | nil => simp [usableAfter]
  | cons c cs ih =>
      rw [List.cons_append, usableAfter_cons, usableAfter_cons, ih, List.append_assoc,
        List.singleton_append]
      split
      · rw [List.cons_append]
      · rfl

theorem plan_append (settings : CatalogSettings) (cs more : List Capability) :
    plan settings (cs ++ more) = plan settings cs ++
      (usableAfter settings.reserved cs more).flatMap (planned settings.timeoutText) := by
  unfold plan usable
  rw [usableAfter_append, List.flatMap_append, List.nil_append]

theorem Free.left {reserved : List String} {es more : List Entry}
    (h : Free reserved [] (es ++ more)) : Free reserved [] es := by
  rw [free_iff, List.map_append] at h
  exact free_iff.mpr
    ⟨(List.nodup_append.mp h.1).1, fun e he => h.2 e (List.mem_append_left _ he)⟩

/-! ## Reserved names -/

/-- Passing over the reserved names is leaving their capabilities out. -/
theorem usableAfter_eq_unreserved (reserved : List String) (cs before : List Capability) :
    usableAfter reserved before cs =
      usableAfter [] (before.filter fun c => c.name ∉ reserved)
        (cs.filter fun c => c.name ∉ reserved) := by
  induction cs generalizing before with
  | nil => rfl
  | cons c cs ih =>
      rw [usableAfter_cons, ih (before ++ [c]), List.filter_append]
      by_cases hres : c.name ∈ reserved
      · have hdrop : [c].filter (fun c => c.name ∉ reserved) = [] := by simp [hres]
        rw [if_neg (fun h => h.1 hres), hdrop, List.append_nil,
          List.filter_cons_of_neg (by simpa using hres)]
      · have hkeep : [c].filter (fun c => c.name ∉ reserved) = [c] := by simp [hres]
        -- a capability of that name that came before has not been left out
        have hbefore : c.name ∈ (before.filter fun c => c.name ∉ reserved).map (·.name) ↔
            c.name ∈ before.map (·.name) := by
          simp only [List.mem_map, List.mem_filter, decide_eq_true_eq]
          constructor
          · rintro ⟨d, ⟨hd, -⟩, hname⟩
            exact ⟨d, hd, hname⟩
          · rintro ⟨d, hd, hname⟩
            exact ⟨d, ⟨hd, hname ▸ hres⟩, hname⟩
        rw [hkeep, List.filter_cons_of_pos (by simpa using hres), usableAfter_cons]
        simp only [hres, hbefore, List.not_mem_nil, not_false_eq_true, true_and]

theorem registerAll_unreserved {reserved : List String} (es : List Entry) (catalog : Catalog)
    (h : ∀ e ∈ es, e.command ∉ reserved) :
    registerAll reserved es catalog = registerAll [] es catalog := by
  induction es generalizing catalog with
  | nil => rfl
  | cons e es ih =>
      rw [List.forall_mem_cons] at h
      have hfirst : register reserved catalog e = register [] catalog e := by
        simp [register, h.1]
      rw [registerAll, registerAll, hfirst]
      cases register [] catalog e with
      | error name => rfl
      | ok catalog' => exact ih catalog' h.2

/-- The only action of a capability goes by its own name. -/
theorem command_of_action {timeout : String} {c : Capability} {e : Entry}
    (he : e ∈ planned timeout c) (haction : e.form = .action) : e.command = c.name := by
  rcases planned_cases he with rfl | ⟨_, _, _, x, -, -, rfl⟩ | rfl
  · rfl
  · cases x <;> cases haction
  · cases haction

theorem plan_unreserved {settings : CatalogSettings} {cs : List Capability}
    (h : ∀ c ∈ usable settings.reserved cs, ∀ e ∈ planned settings.timeoutText c,
      e.form ≠ .action → e.command ∉ settings.reserved) :
    ∀ e ∈ plan settings cs, e.command ∉ settings.reserved := by
  intro e he
  obtain ⟨c, hc, hin⟩ := List.mem_flatMap.mp he
  by_cases haction : e.form = .action
  · rw [command_of_action hin haction]
    exact (not_mem_of_usableAfter hc).1
  · exact h c hc e hin haction

/-! ## What does not matter -/

/-- The order of capabilities without a common name does not matter to their catalog, or to whether
there is one.  A catalog of capabilities that come first in a list is part of the catalog of the
list.  Reserving names is leaving out the capabilities of these names, if none of them is the name
of another command of a capability that is not passed over. -/
theorem build_stable (settings : CatalogSettings) (cs : List Capability) :
    (∀ shuffled, shuffled.Perm cs → (cs.map (·.name)).Nodup →
      (∃ catalog, build settings cs = .ok catalog ∧ build settings shuffled = .ok catalog) ∨
      ∃ name name', build settings cs = .error (.catalogConsistency name) ∧
        build settings shuffled = .error (.catalogConsistency name')) ∧
    (∀ more larger, build settings (cs ++ more) = .ok larger →
      ∃ catalog, build settings cs = .ok catalog ∧
        ∀ name e, catalog.get? name = some e → larger.get? name = some e) ∧
    ((∀ c ∈ usable settings.reserved cs, ∀ e ∈ planned settings.timeoutText c,
        e.form ≠ .action → e.command ∉ settings.reserved) →
      build settings cs =
        build { settings with reserved := [] }
          (cs.filter fun c => c.name ∉ settings.reserved)) := by
  refine ⟨?_, ?_, ?_⟩
  · intro shuffled hp hnd
    have hplan := plan_perm settings hp hnd
    rcases build_cases settings cs with
      ⟨hfree, catalog, hok, hholds⟩ | ⟨_, e, _, hcut, -, htaken, herr⟩
    · obtain ⟨other, hother⟩ := build_of_free (hfree.perm hplan.symm)
      obtain rfl := (holds_of_build hother).eq_of_perm hholds hplan
      exact Or.inl ⟨other, hok, hother⟩
    · rcases build_cases settings shuffled with ⟨hfree, -⟩ | ⟨_, e', _, -, -, -, herr'⟩
      · exact absurd (hcut ▸ hfree.perm hplan) (not_free_of_taken htaken)
      · exact Or.inr ⟨e.command, e'.command, herr, herr'⟩
  · intro more larger hlarger
    have hplan := plan_append settings cs more
    obtain ⟨catalog, hok⟩ := build_of_free (hplan ▸ free_of_build hlarger).left
    refine ⟨catalog, hok, ?_⟩
    intro name e hget
    obtain ⟨hin, hname⟩ := (holds_of_build hok).get?_iff.mp hget
    refine (holds_of_build hlarger).get?_iff.mpr ⟨?_, hname⟩
    rw [hplan]
    exact List.mem_append_left _ hin
  · intro hderived
    have hplan : plan { settings with reserved := [] }
        (cs.filter fun c => c.name ∉ settings.reserved) = plan settings cs := by
      unfold plan usable
      rw [usableAfter_eq_unreserved settings.reserved cs]
      rfl
    unfold build
    rw [assemble_eq_registerAll, assemble_eq_registerAll, hplan,
      registerAll_unreserved _ _ (plan_unreserved hderived)]

/-- Two capabilities, one of which is reserved: in their order and in the other, with a third behind
them, and without the reserved one where nothing is reserved. -/
theorem build_stable_reserved :
    let settings : CatalogSettings := {}
    let stop : Capability := ⟨"stop", 0⟩
    let text : Capability := ⟨"isTextPresent", 1⟩
    let negated : Entry :=
      ⟨"assertTextNotPresent", text, .check .assert .value .notEqual⟩
    ∃ catalog larger, build settings [stop, text] = .ok catalog ∧
      build settings [text, stop] = .ok catalog ∧
      build { settings with reserved := [] } [text] = .ok catalog ∧
      build settings [stop, text, ⟨"open", 1⟩] = .ok larger ∧
      larger.get? "assertTextNotPresent" = some negated := by
  intro settings stop text negated
  obtain ⟨horder, hmore, hhidden⟩ := build_stable settings [stop, text]
  have hfound : (build settings [stop, text]).map (·.get? "assertTextNotPresent") =
      .ok (some negated) := by decide +kernel
  have hlarger : (build settings ([stop, text] ++ [⟨"open", 1⟩])).isOk = true := by decide +kernel
  obtain ⟨catalog, hcatalog, hget⟩ := Except.map_ok_iff.mp hfound
  cases hl : build settings ([stop, text] ++ [⟨"open", 1⟩]) with
  | error e =>
      rw [hl] at hlarger
      cases hlarger
  | ok larger =>
      refine ⟨catalog, larger, hcatalog, ?_, ?_, hl, ?_⟩
      · rcases horder [text, stop] (.swap _ _ _) (by decide) with
          ⟨other, hok, hswapped⟩ | ⟨_, _, herr, -⟩
        · cases hcatalog.symm.trans hok
          exact hswapped
        · cases hcatalog.symm.trans herr
      · rw [← hcatalog]
        exact (hhidden (by decide +kernel)).symm
      · obtain ⟨other, hok, hkept⟩ := hmore [⟨"open", 1⟩] larger hl
        cases hcatalog.symm.trans hok
        exact hkept _ _ hget

end TableTest.Catalog
