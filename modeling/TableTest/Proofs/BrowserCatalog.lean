/-
`TableTest.Proofs.BrowserCatalog` — the catalog of the browser

The names of the browser's methods look neither like the name of a check nor like that of a command
that waits, so what a name looks like tells the family of its command.  Commands of different
families therefore never clash, and within a family two commands could clash only over their methods
or over the short names of these.  It follows that the catalog can be made whatever ordinary names
are reserved.  Every step of a script goes back to one of the browser's methods, and its arguments
are those that the method takes: the browser reads an accessor as a query, a deed as an action, and
does not know the methods of its life cycle.
-/
import Mathlib.Data.List.Nodup
import Mathlib.Data.List.Perm.Basic
import Mathlib.Data.List.Flatten
import TableTest.Proofs.Affix
import TableTest.Proofs.CheckFamily
import TableTest.Proofs.Resolution
import TableTest.Session.Capabilities
import TableTest.Session.Command

namespace TableTest

/-! ## What a name looks like -/

/-- The family that the name of a command looks like belonging to. -/
def Naming.kindOf (command : String) : CommandKind :=
  if Text.startsWith "assert" command then .assert
  else if Text.startsWith "verify" command then .verify
  else if "AndWait".toList.isSuffixOf command.toList then .andWait
  else .action

namespace Naming

theorem kindOf_assertName (short : String) : kindOf (assertName short) = .assert := by
  rw [kindOf, assertName, Text.startsWith_append]
  rfl

theorem kindOf_verifyName (short : String) : kindOf (verifyName short) = .verify := by
  have hno : Text.startsWith "assert" (verifyName short) = false := by
    rw [Text.startsWith, verifyName, String.toList_append]
    rfl
  rw [kindOf, hno, verifyName, Text.startsWith_append]
  rfl

theorem kindOf_andWaitName {method : String} (h : kindOf method = .action) :
    kindOf (andWaitName method) = .andWait := by
  unfold kindOf at h
  split at h
  · cases h
  next hassert =>
  split at h
  · cases h
  next hverify =>
  have hassert' : Text.startsWith "assert" (andWaitName method) = false :=
    Text.startsWith_append_eq_false (Bool.eq_false_iff.mpr hassert) (by simp)
  have hverify' : Text.startsWith "verify" (andWaitName method) = false :=
    Text.startsWith_append_eq_false (Bool.eq_false_iff.mpr hverify) (by simp)
  have hwait : "AndWait".toList.isSuffixOf (andWaitName method).toList = true := by
    rw [andWaitName, String.toList_append, List.isSuffixOf_iff_suffix]
    exact List.suffix_append _ _
  rw [kindOf, hassert', hverify', hwait]
  rfl

end Naming

namespace Catalog

/-! ## Commands that cannot clash -/

/-- The short name of an accessor and its negation, if its checks are registered. -/
def checked (c : Capability) : List String :=
  match Naming.shortName? c.name, c.arity with
  | some short, 0 => [short, Naming.negate short]
  | some short, 1 => [short, Naming.negate short]
  | _, _ => []

theorem commands_planned (timeout : String) (c : Capability) :
    (planned timeout c).map (·.command) =
      [c.name] ++ ((checked c).map Naming.assertName ++
        ((checked c).map Naming.verifyName ++ [Naming.andWaitName c.name])) := by
  unfold planned checked
  cases Naming.shortName? c.name with
  | none => rfl
  | some short =>
      match c.arity with
      | 0 => rfl
      | 1 => rfl
      | _ + 2 => rfl

/-- The commands of a plan, family by family. -/
theorem commands_perm (timeout : String) (cs : List Capability) :
    ((cs.flatMap (planned timeout)).map (·.command)).Perm
      (cs.map (·.name) ++ ((cs.flatMap checked).map Naming.assertName ++
        ((cs.flatMap checked).map Naming.verifyName ++
          (cs.map (·.name)).map Naming.andWaitName))) := by
  simp only [List.map_flatMap, commands_planned]
  refine (List.flatMap_append_perm cs _ _).symm.trans ?_
  rw [← List.map_eq_flatMap]
  refine List.Perm.append_left _ ?_
  refine (List.flatMap_append_perm cs _ _).symm.trans ?_
  refine List.Perm.append_left _ ?_
  refine (List.flatMap_append_perm cs _ _).symm.trans ?_
  rw [← List.map_eq_flatMap, List.map_map]
  exact .refl _

section

variable {cs : List Capability}

/-- Names that look different are different. -/
theorem nodup_append_of_kindOf {front rest : List String} {kind : CommandKind}
    (hfront : ∀ name ∈ front, Naming.kindOf name = kind)
    (hrest : ∀ name ∈ rest, Naming.kindOf name ≠ kind) (hnd : front.Nodup) (hnd' : rest.Nodup) :
    (front ++ rest).Nodup := by
  refine List.nodup_append.mpr ⟨hnd, hnd', ?_⟩
  intro a ha b hb hab
  exact hrest b hb (hab ▸ hfront a ha)

theorem nodup_commands (timeout : String) (hcs : ∀ c ∈ cs, Naming.kindOf c.name = .action)
    (hnames : (cs.map (·.name)).Nodup) (hshorts : (cs.flatMap checked).Nodup) :
    ((cs.flatMap (planned timeout)).map (·.command)).Nodup := by
  have hactions : ∀ name ∈ cs.map (·.name), Naming.kindOf name = .action :=
    List.forall_mem_map.mpr hcs
  have hasserts : ∀ name ∈ (cs.flatMap checked).map Naming.assertName,
      Naming.kindOf name = .assert := List.forall_mem_map.mpr fun s _ => Naming.kindOf_assertName s
  have hverifies : ∀ name ∈ (cs.flatMap checked).map Naming.verifyName,
      Naming.kindOf name = .verify := List.forall_mem_map.mpr fun s _ => Naming.kindOf_verifyName s
  have hwaits : ∀ name ∈ (cs.map (·.name)).map Naming.andWaitName,
      Naming.kindOf name = .andWait :=
    List.forall_mem_map.mpr fun name hname => Naming.kindOf_andWaitName (hactions name hname)
  rw [(commands_perm timeout cs).nodup_iff]
  refine nodup_append_of_kindOf hactions ?_ hnames ?_
  · intro name hname
    rcases List.mem_append.mp hname with h | h
    · simp [hasserts name h]
    · rcases List.mem_append.mp h with h | h
      · simp [hverifies name h]
      · simp [hwaits name h]
  refine nodup_append_of_kindOf hasserts ?_ ?_ ?_
  · intro name hname
    rcases List.mem_append.mp hname with h | h
    · simp [hverifies name h]
    · simp [hwaits name h]
  · exact hshorts.map fun _ _ h => (String.append_right_inj _).mp h
  refine nodup_append_of_kindOf hverifies ?_ ?_ ?_
  · intro name hname
    simp [hwaits name hname]
  · exact hshorts.map fun _ _ h => (String.append_right_inj _).mp h
  · exact hnames.map fun _ _ h => (String.append_left_inj _).mp h

/-- A plan of commands that cannot clash avoids the reserved names too, if these look like those of
actions. -/
theorem free_plan (settings : CatalogSettings) (hcs : ∀ c ∈ cs, Naming.kindOf c.name = .action)
    (hshorts : (cs.flatMap checked).Nodup)
    (hreserved : ∀ name ∈ settings.reserved, Naming.kindOf name = .action) :
    Free settings.reserved [] (plan settings cs) := by
  have hsub := usableAfter_sublist settings.reserved [] cs
  refine free_iff.mpr ⟨?_, ?_⟩
  · refine nodup_commands settings.timeoutText (fun c hc => hcs c (hsub.subset hc)) ?_ ?_
    · exact nodup_usableAfter settings.reserved cs []
    · exact hshorts.sublist (hsub.flatMap checked)
  · intro e he hres
    obtain ⟨c, hc, hin⟩ := List.mem_flatMap.mp he
    have hkind := hreserved e.command hres
    have hcommand := List.mem_map_of_mem (f := (·.command)) hin
    rw [commands_planned] at hcommand
    simp only [List.mem_append, List.mem_singleton, List.mem_map] at hcommand
    rcases hcommand with hname | ⟨short, -, hname⟩ | ⟨short, -, hname⟩ | hname
    · exact (not_mem_of_usableAfter hc).1 (hname ▸ hres)
    · rw [← hname, Naming.kindOf_assertName] at hkind
      cases hkind
    · rw [← hname, Naming.kindOf_verifyName] at hkind
      cases hkind
    · rw [hname, Naming.kindOf_andWaitName (hcs c (hsub.subset hc))] at hkind
      cases hkind

end

/-- A step goes back to a capability that is not passed over, on the row that it was made of. -/
theorem capability_of_resolve {settings : CatalogSettings} {cs : List Capability}
    {catalog : Catalog} (hbuild : build settings cs = .ok catalog) {rows : List Row}
    {steps : List Step} (hresolve : catalog.resolve rows = .ok steps) {step : Step}
    (hstep : step ∈ steps) :
    ∃ c ∈ usable settings.reserved cs, ∃ row ∈ rows, step.method = c.name ∧
      step.args = c.bind row.target row.value := by
  obtain ⟨row, hrow, entry, hentry, rfl⟩ := step_of_resolve hresolve hstep
  obtain ⟨hplan, -⟩ := (holds_of_build hbuild).get?_iff.mp hentry
  obtain ⟨c, hc, hin⟩ := List.mem_flatMap.mp hplan
  cases capability_of_mem_planned hin
  exact ⟨_, hc, row, hrow, rfl, rfl⟩

end Catalog

/-! ## The browser -/

namespace Session

theorem mem_capabilities {c : Capability} (hc : c ∈ capabilities) :
    c ∈ accessors ∨ c ∈ deeds ∨ c ∈ lifecycle := by
  rcases List.mem_append.mp hc with hc | hc
  · exact (List.mem_append.mp hc).imp_right Or.inl
  · exact Or.inr (Or.inr hc)

theorem kindOf_capabilities : ∀ c ∈ capabilities, Naming.kindOf c.name = .action := by
  decide +kernel

theorem nodup_checked : (capabilities.flatMap Catalog.checked).Nodup := by
  decide +kernel

/-- The catalog of the browser can be made whatever names are reserved, if they look like those of
actions; how long a command waits does not matter. -/
theorem catalog_of_reserved (settings : CatalogSettings)
    (hreserved : ∀ name ∈ settings.reserved, Naming.kindOf name = .action) :
    ∃ catalog, Session.catalog settings = .ok catalog :=
  Catalog.build_of_free
    (Catalog.free_plan settings kindOf_capabilities nodup_checked hreserved)

/-! ## What the browser makes of a method with the arguments that it takes -/

theorem ofCall?_accessor : ∀ c ∈ accessors, ∀ target value,
    ∃ q, Command.ofCall? c.name (c.bind target value) = some (.query q) := by
  simp only [accessors, List.forall_mem_cons]
  and_intros
  all_goals first
    | exact fun _ _ => ⟨_, rfl⟩
    | exact List.forall_mem_nil _

theorem ofCall?_deed : ∀ c ∈ deeds, ∀ target value,
    ∃ a, Command.ofCall? c.name (c.bind target value) = some (.action a) := by
  simp only [deeds, List.forall_mem_cons]
  and_intros
  all_goals first
    | exact fun _ _ => ⟨_, rfl⟩
    | exact List.forall_mem_nil _

theorem ofCall?_lifecycle : ∀ c ∈ lifecycle, ∀ target value,
    Command.ofCall? c.name (c.bind target value) = none := by
  simp only [lifecycle, List.forall_mem_cons]
  and_intros
  all_goals first
    | exact fun _ _ => rfl
    | exact List.forall_mem_nil _

end Session

end TableTest
