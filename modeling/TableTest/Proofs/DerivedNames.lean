/-
`TableTest.Proofs.DerivedNames` — names that are derived do not clash by accident

The negation of a short name is three letters longer, wherever these are put, so it is another name.
Put in front, they cannot make a name end in `Present` that did not, so it can be told which of the
two forms a negation has, and what it is the negation of.  The checks of two short names therefore
have a name in common only if the short names are the same, or one is the negation of the other.
The names that are derived from one method differ from it and from each other: alone, or with others
that are passed over, it has a catalog unless one of these names is reserved.
-/
import TableTest.Proofs.BrowserCatalog
import TableTest.Proofs.CatalogStability

namespace TableTest

namespace Naming

variable {short other method : String}

/-! ## Negation -/

theorem negate_cases (short : String) :
    (∃ stem, short = stem ++ "Present" ∧ negate short = stem ++ "NotPresent") ∨
    (∀ stem, short ≠ stem ++ "Present") ∧ negate short = "Not" ++ short := by
  unfold negate
  split
  · next stem hstem => exact Or.inl ⟨stem, Text.before?_eq_some_iff.mp hstem, rfl⟩
  · next hnone =>
    refine Or.inr ⟨?_, rfl⟩
    intro stem h
    rw [Text.before?_eq_some_iff.mpr h] at hnone
    cases hnone

theorem length_negate (short : String) : (negate short).length = short.length + 3 := by
  rcases negate_cases short with ⟨stem, rfl, hnegate⟩ | ⟨-, hnegate⟩
  · rw [hnegate, String.length_append, String.length_append]
    rfl
  · rw [hnegate, String.length_append, Nat.add_comm]
    rfl

theorem negate_ne (short : String) : negate short ≠ short := by
  intro h
  have hlength := length_negate short
  rw [h] at hlength
  omega

/-- With `Not` in front, a short name that does not end in `Present` does not come to end in
`NotPresent`. -/
theorem not_append_ne (hother : ∀ stem, short ≠ stem ++ "Present") (stem : String) :
    "Not" ++ short ≠ stem ++ "NotPresent" := by
  intro h
  have hlists : "Not".toList ++ short.toList =
      (stem.toList ++ "Not".toList) ++ "Present".toList := by
    rw [← String.toList_append, h, String.toList_append, List.append_assoc]
    rfl
  rcases List.append_eq_append_iff.mp hlists with ⟨cs, -, hshort⟩ | ⟨cs, hnot, hpresent⟩
  · -- `Present` stands in the short name
    refine hother (String.ofList cs) ?_
    rw [← String.toList_inj, String.toList_append, String.toList_ofList, hshort]
  · -- the two `Not` are the same, so the short name is `Present`
    have hlength := congrArg List.length hnot
    simp only [List.length_append] at hlength
    obtain rfl : cs = [] := List.eq_nil_of_length_eq_zero (by omega)
    refine hother "" ?_
    rw [← String.toList_inj, String.empty_append]
    exact hpresent.symm

theorem negate_injective : Function.Injective negate := by
  intro short other h
  rcases negate_cases short with ⟨stem, rfl, hshort⟩ | ⟨hends, hshort⟩ <;>
    rcases negate_cases other with ⟨stem', rfl, hother⟩ | ⟨hends', hother⟩ <;>
    rw [hshort, hother] at h
  · rw [(String.append_left_inj _).mp h]
  · exact absurd h.symm (not_append_ne hends' stem)
  · exact absurd h (not_append_ne hends stem')
  · exact (String.append_right_inj _).mp h

/-! ## The names of one method -/

/-- The names of the checks of a short name. -/
def checkNames (short : String) : List String :=
  [assertName short, assertName (negate short), verifyName short, verifyName (negate short)]

/-- All names that a method can give rise to: its own, those of its checks if it is an accessor, and
the one of the command that waits. -/
def names (method : String) : List String :=
  method :: ((shortName? method).elim [] checkNames ++ [andWaitName method])

theorem assertName_ne_verifyName (s t : String) : assertName s ≠ verifyName t := by
  intro h
  have hkind := congrArg kindOf h
  rw [kindOf_assertName, kindOf_verifyName] at hkind
  cases hkind

theorem commandName_eq_iff {mode mode' : CheckMode} {s t : String} :
    mode.commandName s = mode'.commandName t ↔ mode = mode' ∧ s = t := by
  cases mode <;> cases mode'
  case assert.assert | verify.verify =>
    rw [eq_self_iff_true, true_and]
    exact String.append_right_inj _
  case assert.verify => exact iff_of_false (assertName_ne_verifyName s t) nofun
  case verify.assert => exact iff_of_false (assertName_ne_verifyName t s).symm nofun

theorem mem_checkNames {name : String} :
    name ∈ checkNames short ↔
      ∃ mode : CheckMode, ∃ s, (s = short ∨ s = negate short) ∧ name = mode.commandName s := by
  simp only [checkNames, List.mem_cons, List.not_mem_nil, or_false]
  constructor
  · rintro (rfl | rfl | rfl | rfl)
    · exact ⟨.assert, _, Or.inl rfl, rfl⟩
    · exact ⟨.assert, _, Or.inr rfl, rfl⟩
    · exact ⟨.verify, _, Or.inl rfl, rfl⟩
    · exact ⟨.verify, _, Or.inr rfl, rfl⟩
  · rintro ⟨mode, s, rfl | rfl, rfl⟩ <;> cases mode <;> simp [CheckMode.commandName]

theorem nodup_checkNames (short : String) : (checkNames short).Nodup := by
  have hne : short ≠ negate short := (negate_ne short).symm
  show [CheckMode.assert.commandName short, CheckMode.assert.commandName (negate short),
    CheckMode.verify.commandName short, CheckMode.verify.commandName (negate short)].Nodup
  simp [commandName_eq_iff, hne]

theorem eq_append_of_shortName? (hshort : shortName? method = some short) :
    method = "get" ++ short ∨ method = "is" ++ short := by
  rw [shortName?, Option.or_eq_some_iff] at hshort
  rcases hshort with h | ⟨-, h⟩
  · exact Or.inl (Text.after?_eq_some_iff.mp h)
  · exact Or.inr (Text.after?_eq_some_iff.mp h)

/-- What begins with the name of an accessor is no name of a check. -/
theorem append_ne_commandName (hshort : shortName? method = some short) (rest : String)
    (mode : CheckMode) (s : String) : method ++ rest ≠ mode.commandName s := by
  intro h
  have hhead := congrArg (·.toList.head?) h
  rcases eq_append_of_shortName? hshort with rfl | rfl <;> cases mode <;>
    simp [CheckMode.commandName, assertName, verifyName] at hhead

theorem ne_andWaitName (method : String) : method ≠ andWaitName method := by
  intro h
  have hlength := congrArg String.length h
  rw [andWaitName, String.length_append] at hlength
  exact absurd hlength (by simp)

theorem nodup_names (method : String) : (names method).Nodup := by
  unfold names
  cases hshort : shortName? method with
  | none => simp [ne_andWaitName method]
  | some short =>
      have hname : method ∉ checkNames short := by
        intro hin
        obtain ⟨mode, s, -, heq⟩ := mem_checkNames.mp hin
        exact append_ne_commandName hshort "" mode s (by rw [String.append_empty, heq])
      have hwait : andWaitName method ∉ checkNames short := by
        intro hin
        obtain ⟨mode, s, -, heq⟩ := mem_checkNames.mp hin
        exact append_ne_commandName hshort "AndWait" mode s heq
      refine List.nodup_cons.mpr ⟨?_, List.nodup_append.mpr ⟨nodup_checkNames short, by simp, ?_⟩⟩
      · intro hin
        rcases List.mem_append.mp hin with hin | hin
        · exact hname hin
        · exact ne_andWaitName method (List.mem_singleton.mp hin)
      · rintro name hin _ hwaits rfl
        exact hwait (List.mem_singleton.mp hwaits ▸ hin)

/-! ## The checks of two short names -/

theorem checkNames_share_iff :
    (∃ name, name ∈ checkNames short ∧ name ∈ checkNames other) ↔
      short = other ∨ short = negate other ∨ other = negate short := by
  constructor
  · rintro ⟨name, hin, hin'⟩
    obtain ⟨mode, s, hs, rfl⟩ := mem_checkNames.mp hin
    obtain ⟨mode', t, ht, heq⟩ := mem_checkNames.mp hin'
    obtain ⟨-, rfl⟩ := commandName_eq_iff.mp heq
    rcases hs with rfl | rfl <;> rcases ht with ht | ht
    · exact Or.inl ht
    · exact Or.inr (Or.inl ht)
    · exact Or.inr (Or.inr ht.symm)
    · exact Or.inl (negate_injective ht)
  · intro h
    have hplain : ∀ s, assertName s ∈ checkNames s := fun s => List.mem_cons_self
    have hnegated : ∀ s, assertName (negate s) ∈ checkNames s :=
      fun s => List.mem_cons_of_mem _ List.mem_cons_self
    rcases h with rfl | rfl | rfl
    · exact ⟨_, hplain _, hplain _⟩
    · exact ⟨_, hplain _, hnegated _⟩
    · exact ⟨_, hnegated _, hplain _⟩

end Naming

/-! ## One method alone -/

namespace Catalog

variable {settings : CatalogSettings} {cs : List Capability} {c : Capability}

theorem commands_checksOf (c : Capability) (short : String) (column : Column) :
    (Entry.checksOf c short column).map (·.command) = Naming.checkNames short := rfl

theorem commands_family (timeout : String) (c : Capability) :
    (Entry.family timeout c).map (·.command) =
      if c.arity ≤ 1 then Naming.names c.name else [c.name, Naming.andWaitName c.name] := by
  unfold Entry.family Entry.checks Naming.names
  cases Naming.shortName? c.name with
  | none => simp
  | some short =>
      match c.arity with
      | 0 => rfl
      | 1 => rfl
      | _ + 2 => rfl

theorem nodup_family (timeout : String) (c : Capability) :
    ((Entry.family timeout c).map (·.command)).Nodup := by
  rw [commands_family]
  split
  · exact Naming.nodup_names c.name
  · simp [Naming.ne_andWaitName c.name]

theorem plan_of_usable (hone : usable settings.reserved cs = [c]) :
    plan settings cs = Entry.family settings.timeoutText c := by
  rw [plan, hone, family_eq_planned, List.flatMap_cons, List.flatMap_nil, List.append_nil]

/-- No method of a reserved name is planned, so what is planned under such a name is derived. -/
theorem form_ne_action_of_reserved {entry : Entry} (hin : entry ∈ plan settings cs)
    (hreserved : entry.command ∈ settings.reserved) : entry.form ≠ .action := by
  intro haction
  obtain ⟨c, hc, hplanned⟩ := List.mem_flatMap.mp hin
  rw [command_of_action hplanned haction] at hreserved
  exact (not_mem_of_usableAfter hc).1 hreserved

/-- With one method that is not passed over, a catalog cannot be made exactly if a name that is
derived from it is reserved, and the first of these is the one that is told. -/
theorem build_error_iff_of_usable (hone : usable settings.reserved cs = [c]) {e : Failure} :
    build settings cs = .error e ↔
      ∃ entry, (Entry.family settings.timeoutText c).find?
          (fun entry => entry.command ∈ settings.reserved) = some entry ∧
        entry.form ≠ .action ∧ e = .catalogConsistency entry.command := by
  have hnd := nodup_family settings.timeoutText c
  rw [← plan_of_usable hone] at hnd ⊢
  rcases build_cases settings cs with
    ⟨hfree, catalog, hok, -⟩ | ⟨first, entry, rest, hplan, hfree, htaken, herr⟩
  · rw [hok]
    refine iff_of_false nofun ?_
    rintro ⟨entry, hfind, -, -⟩
    exact (free_iff.mp hfree).2 entry (List.mem_of_find?_eq_some hfind)
      (by simpa using List.find?_some hfind)
  · -- no two of the names are the same, so the one that is refused is reserved
    have hreserved : entry.command ∈ settings.reserved := by
      rcases htaken with hreserved | hbefore
      · exact hreserved
      · rw [hplan, List.map_append, List.nodup_append] at hnd
        exact absurd rfl (hnd.2.2 _ hbefore _ List.mem_cons_self)
    have hfind : (plan settings cs).find? (fun entry => entry.command ∈ settings.reserved) =
        some entry := by
      rw [hplan, List.find?_eq_some_iff_append]
      refine ⟨by simpa using hreserved, first, rest, rfl, ?_⟩
      intro x hx
      simpa using (free_iff.mp hfree).2 x hx
    have hderived : entry.form ≠ .action :=
      form_ne_action_of_reserved (List.mem_of_find?_eq_some hfind) hreserved
    rw [herr, hfind]
    constructor
    · intro h
      cases h
      exact ⟨entry, rfl, hderived, rfl⟩
    · rintro ⟨_, ⟨⟩, -, rfl⟩
      rfl

/-- Negating a short name can be undone, and always changes it.  The names of one method differ from
each other.  The checks of two short names have a name in common exactly if the short names are the
same or one is the negation of the other.  So a method that is not passed over, with no other such
method beside it, has a catalog unless a name that is derived from it is reserved. -/
theorem derived_names_distinct :
    Function.Injective Naming.negate ∧ (∀ short, Naming.negate short ≠ short) ∧
    (∀ method, (Naming.names method).Nodup) ∧
    (∀ timeout c, (Entry.family timeout c).map (·.command) =
      if c.arity ≤ 1 then Naming.names c.name else [c.name, Naming.andWaitName c.name]) ∧
    (∀ c d short other column column',
      (∃ name, name ∈ (Entry.checksOf c short column).map (·.command) ∧
        name ∈ (Entry.checksOf d other column').map (·.command)) ↔
      short = other ∨ short = Naming.negate other ∨ other = Naming.negate short) ∧
    (∀ settings cs c, usable settings.reserved cs = [c] → ∀ e,
      build settings cs = .error e ↔
        ∃ entry, (Entry.family settings.timeoutText c).find?
            (fun entry => entry.command ∈ settings.reserved) = some entry ∧
          entry.form ≠ .action ∧ e = .catalogConsistency entry.command) := by
  refine ⟨Naming.negate_injective, Naming.negate_ne, Naming.nodup_names, commands_family, ?_, ?_⟩
  · intro c d short other column column'
    rw [commands_checksOf, commands_checksOf]
    exact Naming.checkNames_share_iff
  · intro settings cs c hone e
    exact build_error_iff_of_usable hone

/-- An accessor, registered once more and with a method that is too wide, where the negations of its
checks are reserved. -/
theorem derived_names_distinct_title :
    let settings : CatalogSettings := { reserved := ["verifyNotTitle", "assertNotTitle"] }
    let title : Capability := ⟨"getTitle", 0⟩
    let cs : List Capability := [title, ⟨"getTitle", 1⟩, ⟨"dragTo", 3⟩]
    usable settings.reserved cs = [title] ∧
      build settings cs = .error (.catalogConsistency "assertNotTitle") := by
  intro settings title cs
  let negated : Entry := ⟨"assertNotTitle", title, .check .assert .target .notEqual⟩
  have hone : usable settings.reserved cs = [title] := by decide +kernel
  obtain ⟨-, -, -, -, -, hfails⟩ := derived_names_distinct
  exact ⟨hone, (hfails settings cs title hone _).mpr ⟨negated, by decide +kernel, nofun, rfl⟩⟩

end Catalog

end TableTest
