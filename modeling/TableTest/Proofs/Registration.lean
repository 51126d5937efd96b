/-
`TableTest.Proofs.Registration` — what a catalog made of capabilities holds

The commands that a catalog should hold are planned first, without any table: the capabilities
that are not passed over, each with its commands in their order.  Making the catalog registers
this plan from front to back.  It succeeds exactly when the names of the plan are distinct and
none is reserved, and then holds the plan and nothing else; otherwise it stops at the first
name that is reserved or has come before.
-/
import TableTest.Catalog
import TableTest.Proofs.Dictionary
import TableTest.Proofs.Failure

namespace TableTest.Catalog

/-! ## The plan -/

/-- The four checks of a short name, with the column of the expectation. -/
def plannedChecks (c : Capability) (short : String) (column : Column) : List Entry :=
  [⟨"assert" ++ short, c, .check .assert column .equal⟩,
   ⟨"assert" ++ Naming.negate short, c, .check .assert column .notEqual⟩,
   ⟨"verify" ++ short, c, .check .verify column .equal⟩,
   ⟨"verify" ++ Naming.negate short, c, .check .verify column .notEqual⟩]

/-- The commands of a capability: itself, its checks if it is an accessor that takes no argument
or one, and itself followed by a wait. -/
def planned (timeout : String) (c : Capability) : List Entry :=
  let checks := match Naming.shortName? c.name, c.arity with
    | some short, 0 => plannedChecks c short .target
    | some short, 1 => plannedChecks c short .value
    | _, _ => []
  ⟨c.name, c, .action⟩ :: (checks ++ [⟨c.name ++ "AndWait", c, .andWait timeout⟩])

/-- The capabilities that are not passed over, after others that came before: those whose name
is not reserved and has not come before, and that are not too wide. -/
def usableAfter (reserved : List String) (before cs : List Capability) : List Capability :=
  (cs.zipIdx.filter fun (c, i) =>
    c.name ∉ reserved ∧ c.name ∉ (before ++ cs.take i).map (·.name) ∧ c.arity ≤ 2).map (·.1)

/-- The capabilities that are not passed over. -/
def usable (reserved : List String) (cs : List Capability) : List Capability :=
  usableAfter reserved [] cs

/-- All commands that a catalog should hold, in the order in which they are registered. -/
def plan (settings : CatalogSettings) (cs : List Capability) : List Entry :=
  (usable settings.reserved cs).flatMap (planned settings.timeoutText)

theorem family_eq_planned (timeout : String) (c : Capability) :
    Entry.family timeout c = planned timeout c := by
  unfold Entry.family Entry.checks planned
  cases Naming.shortName? c.name with
  | none => rfl
  | some short =>
      match c.arity with
      | 0 => rfl
      | 1 => rfl
      | _ + 2 => rfl

/-- What is planned for a capability is itself, or one of its checks if there are any, or itself
followed by a wait. -/
theorem planned_cases {timeout : String} {c : Capability} {e : Entry} (he : e ∈ planned timeout c) :
    e = ⟨c.name, c, .action⟩ ∨
    (∃ short column mode x, Naming.shortName? c.name = some short ∧
      Column.forArity? c.arity = some column ∧ e = Entry.checkOf c short column mode x) ∨
    e = ⟨Naming.andWaitName c.name, c, .andWait timeout⟩ := by
  rw [← family_eq_planned, Entry.family, List.mem_append, List.mem_append, List.mem_singleton,
    List.mem_singleton] at he
  rcases he with (rfl | he) | rfl
  · exact Or.inl rfl
  · unfold Entry.checks at he
    split at he
    · next short column hshort hcolumn =>
      simp only [Entry.checksOf, List.mem_cons, List.not_mem_nil, or_false] at he
      rcases he with rfl | rfl | rfl | rfl
      all_goals exact Or.inr (Or.inl ⟨short, column, _, _, hshort, hcolumn, rfl⟩)
    · cases he
  · exact Or.inr (Or.inr rfl)

theorem usableAfter_cons (reserved : List String) (before : List Capability) (c : Capability)
    (cs : List Capability) :
    usableAfter reserved before (c :: cs) =
      if c.name ∉ reserved ∧ c.name ∉ before.map (·.name) ∧ c.arity ≤ 2 then
        c :: usableAfter reserved (before ++ [c]) cs
      else usableAfter reserved (before ++ [c]) cs := by
  have rest : ((cs.zipIdx 1).filter fun (d, i) => decide (d.name ∉ reserved ∧
      d.name ∉ (before ++ (c :: cs).take i).map (·.name) ∧ d.arity ≤ 2)).map (·.1) =
      usableAfter reserved (before ++ [c]) cs := by
    rw [List.zipIdx_succ, List.filter_map, List.map_map]
    simp only [usableAfter, List.append_assoc]
    rfl
  rw [← rest, usableAfter, List.zipIdx_cons, List.filter_cons]
  simp only [List.take_zero, List.append_nil, decide_eq_true_eq]
  split
  · exact List.map_cons
  · rfl

theorem usableAfter_sublist (reserved : List String) (before cs : List Capability) :
    (usableAfter reserved before cs).Sublist cs := by
  have h := (List.filter_sublist (p := fun (c, i) =>
    decide (c.name ∉ reserved ∧ c.name ∉ (before ++ cs.take i).map (·.name) ∧ c.arity ≤ 2))
      (l := cs.zipIdx)).map Prod.fst
  rwa [List.zipIdx_map_fst] at h

theorem not_mem_of_usableAfter {reserved : List String} {before cs : List Capability}
    {c : Capability} (h : c ∈ usableAfter reserved before cs) :
    c.name ∉ reserved ∧ c.name ∉ before.map (·.name) := by
  obtain ⟨⟨d, i⟩, hd, rfl⟩ := List.mem_map.mp h
  obtain ⟨hres, hnew, -⟩ := of_decide_eq_true (List.mem_filter.mp hd).2
  refine ⟨hres, ?_⟩
  intro hin
  rw [List.map_append] at hnew
  exact hnew (List.mem_append_left _ hin)

theorem arity_of_mem_usableAfter {reserved : List String} {before cs : List Capability}
    {c : Capability} (h : c ∈ usableAfter reserved before cs) : c.arity ≤ 2 := by
  obtain ⟨⟨d, i⟩, hd, rfl⟩ := List.mem_map.mp h
  obtain ⟨-, -, harity⟩ := of_decide_eq_true (List.mem_filter.mp hd).2
  exact harity

/-- No two capabilities that are not passed over have one name. -/
theorem nodup_usableAfter (reserved : List String) : ∀ cs before : List Capability,
    ((usableAfter reserved before cs).map (·.name)).Nodup
  | [], _ => .nil
  | c :: cs, before => by
      rw [usableAfter_cons]
      split
      · rw [List.map_cons, List.nodup_cons]
        refine ⟨?_, nodup_usableAfter reserved cs _⟩
        intro hin
        obtain ⟨d, hd, hname⟩ := List.mem_map.mp hin
        refine (not_mem_of_usableAfter hd).2 ?_
        rw [hname]
        simp
      · exact nodup_usableAfter reserved cs _

/-! ## Passing over -/

/-- The names to pass over after some capabilities: the reserved ones and theirs. -/
def PassedOver (reserved : List String) (before : List Capability) (seen : List String) : Prop :=
  ∀ name, name ∈ seen ↔ name ∈ reserved ∨ name ∈ before.map (·.name)

section

variable {reserved seen : List String} {before : List Capability} {c : Capability}

theorem PassedOver.not_mem_iff (h : PassedOver reserved before seen) {name : String} :
    name ∉ seen ↔ name ∉ reserved ∧ name ∉ before.map (·.name) := by
  rw [h name, not_or]

theorem PassedOver.cons (h : PassedOver reserved before seen) :
    PassedOver reserved (before ++ [c]) (c.name :: seen) := by
  intro name
  rw [List.mem_cons, h name, List.map_append, List.mem_append, List.map_singleton,
    List.mem_singleton, or_comm, or_assoc]

/-- A name that is passed over already need not be added. -/
theorem PassedOver.stay (h : PassedOver reserved before seen) (hin : c.name ∈ seen) :
    PassedOver reserved (before ++ [c]) seen := by
  intro name
  rw [← h.cons name, List.mem_cons]
  exact ⟨Or.inr, fun hn => hn.elim (fun he => he ▸ hin) id⟩

end

theorem registerAll_append (reserved : List String) : ∀ (es fs : List Entry) (catalog : Catalog),
    registerAll reserved (es ++ fs) catalog =
      (registerAll reserved es catalog).bind (registerAll reserved fs)
  | [], _, _ => rfl
  | e :: es, fs, catalog => by
      rw [List.cons_append, registerAll, registerAll]
      cases register reserved catalog e with
      | error _ => rfl
      | ok catalog' => exact registerAll_append reserved es fs catalog'

/-- Registering the families of the capabilities is registering the planned commands. -/
theorem registerFamilies_eq (settings : CatalogSettings) :
    ∀ (cs before : List Capability) (seen : List String) (catalog : Catalog),
      PassedOver settings.reserved before seen →
      registerFamilies settings seen cs catalog =
        registerAll settings.reserved
          ((usableAfter settings.reserved before cs).flatMap (planned settings.timeoutText)) catalog
  | [], _, _, _, _ => rfl
  | c :: cs, before, seen, catalog, hseen => by
      rw [registerFamilies, usableAfter_cons]
      by_cases hin : c.name ∈ seen
      · have hno : ¬ (c.name ∉ settings.reserved ∧ c.name ∉ before.map (·.name) ∧
            c.arity ≤ 2) := fun h => hseen.not_mem_iff.mpr ⟨h.1, h.2.1⟩ hin
        rw [if_pos (List.contains_iff_mem.mpr hin), if_neg hno]
        exact registerFamilies_eq settings cs (before ++ [c]) seen catalog (hseen.stay hin)
      · obtain ⟨hres, hnew⟩ := hseen.not_mem_iff.mp hin
        rw [if_neg (fun h => hin (List.contains_iff_mem.mp h))]
        by_cases hwide : Capability.maxArity < c.arity
        · rw [if_pos hwide, if_neg fun h => Nat.not_le.mpr hwide h.2.2]
          exact registerFamilies_eq settings cs (before ++ [c]) _ catalog hseen.cons
        · rw [if_neg hwide, if_pos ⟨hres, hnew, Nat.not_lt.mp hwide⟩, List.flatMap_cons,
            registerAll_append, family_eq_planned]
          congr 1
          funext catalog'
          exact registerFamilies_eq settings cs (before ++ [c]) _ catalog' hseen.cons

theorem assemble_eq_registerAll (settings : CatalogSettings) (cs : List Capability) :
    assemble settings cs = registerAll settings.reserved (plan settings cs) {} :=
  registerFamilies_eq settings cs [] settings.reserved {} fun name => by simp

/-! ## Registering one command after the other -/

/-- Whether a command cannot be registered after others: its name is reserved, or it is the name
of one of them. -/
def Taken (reserved : List String) (before : List Entry) (entry : Entry) : Prop :=
  entry.command ∈ reserved ∨ entry.command ∈ before.map (·.command)

/-- Whether commands can be registered after others: their names are distinct, and none of them
is taken. -/
def Free (reserved : List String) (before es : List Entry) : Prop :=
  (es.map (·.command)).Nodup ∧ ∀ e ∈ es, ¬ Taken reserved before e

theorem free_cons {reserved : List String} {before es : List Entry} {e : Entry} :
    Free reserved before (e :: es) ↔
      ¬ Taken reserved before e ∧ Free reserved (before ++ [e]) es := by
  simp only [Free, Taken, List.map_cons, List.nodup_cons, List.mem_map, List.forall_mem_cons,
    List.map_append, List.mem_append, List.map_nil, List.mem_singleton, not_or]
  constructor
  · rintro ⟨⟨hne, hnd⟩, he, hes⟩
    exact ⟨he, hnd, fun x hx => ⟨(hes x hx).1, (hes x hx).2, fun h => hne ⟨x, hx, h⟩⟩⟩
  · rintro ⟨he, hnd, hes⟩
    exact ⟨⟨fun ⟨x, hx, h⟩ => (hes x hx).2.2 h, hnd⟩, he,
      fun x hx => ⟨(hes x hx).1, (hes x hx).2.1⟩⟩

/-- The catalog holds these commands, each under its name, and nothing else. -/
structure Holds (catalog : Catalog) (es : List Entry) : Prop where
  perm : catalog.table.entries.Perm (es.map fun e => (e.command, e))
  ascending : catalog.table.Ascending

theorem holds_empty : Holds {} [] := ⟨.refl _, Dictionary.ascending_empty⟩

theorem Holds.names_perm {catalog : Catalog} {es : List Entry} (h : catalog.Holds es) :
    catalog.names.Perm (es.map (·.command)) := by
  simpa [names, Dictionary.names, Function.comp_def] using h.perm.map (·.1)

theorem Holds.contains_iff {catalog : Catalog} {es : List Entry} (h : catalog.Holds es)
    {name : String} : catalog.contains name = true ↔ name ∈ es.map (·.command) :=
  Dictionary.contains_iff.trans h.names_perm.mem_iff

theorem Holds.refused_iff {catalog : Catalog} {before : List Entry} (h : catalog.Holds before)
    (reserved : List String) (e : Entry) :
    (reserved.contains e.command || catalog.contains e.command) = true ↔
      Taken reserved before e := by
  rw [Bool.or_eq_true, List.contains_iff_mem, h.contains_iff]
  rfl

theorem Holds.insert {catalog : Catalog} {before : List Entry} {e : Entry}
    (h : catalog.Holds before) (hnew : e.command ∉ before.map (·.command)) :
    Holds ⟨catalog.table.insert e.command e⟩ (before ++ [e]) := by
  refine ⟨?_, h.ascending.insert e.command e⟩
  have hnew' : e.command ∉ catalog.table.names := fun hin => hnew (h.names_perm.mem_iff.mp hin)
  rw [List.map_append]
  exact (Dictionary.perm_insert e hnew').trans
    ((h.perm.cons _).trans (List.perm_append_singleton _ _).symm)

/-- Registering goes through exactly when the commands are free, and otherwise stops at the
first that is taken. -/
theorem registerAll_cases (reserved : List String) :
    ∀ (es before : List Entry) (catalog : Catalog), catalog.Holds before →
      (Free reserved before es ∧ ∃ catalog', registerAll reserved es catalog = .ok catalog' ∧
        catalog'.Holds (before ++ es)) ∨
      (∃ first e rest, es = first ++ e :: rest ∧ Free reserved before first ∧
        Taken reserved (before ++ first) e ∧ registerAll reserved es catalog = .error e.command)
  | [], before, catalog, h =>
      Or.inl ⟨⟨.nil, fun _ he => absurd he List.not_mem_nil⟩, catalog, rfl, by simpa using h⟩
  | e :: es, before, catalog, h => by
      rw [registerAll, register]
      by_cases ht : Taken reserved before e
      · rw [if_pos ((h.refused_iff reserved e).mpr ht)]
        exact Or.inr ⟨[], e, es, rfl, ⟨.nil, fun _ he => absurd he List.not_mem_nil⟩,
          by simpa using ht, rfl⟩
      · rw [if_neg fun hr => ht ((h.refused_iff reserved e).mp hr)]
        have hnext := h.insert fun hin => ht (Or.inr hin)
        rcases registerAll_cases reserved es (before ++ [e]) _ hnext with
          ⟨hfree, catalog', hok, hholds⟩ | ⟨first, e', rest, rfl, hfree, htaken, herr⟩
        · exact Or.inl ⟨free_cons.mpr ⟨ht, hfree⟩, catalog', hok, by simpa using hholds⟩
        · exact Or.inr ⟨e :: first, e', rest, rfl, free_cons.mpr ⟨ht, hfree⟩,
            by simpa using htaken, herr⟩

/-! ## What is made -/

theorem Holds.entries_perm {catalog : Catalog} {es : List Entry} (h : catalog.Holds es) :
    catalog.entries.Perm es := by
  simpa [entries, Dictionary.values, Function.comp_def] using h.perm.map (·.2)

theorem Holds.get?_iff {catalog : Catalog} {es : List Entry} (h : catalog.Holds es)
    {name : String} {e : Entry} : catalog.get? name = some e ↔ e ∈ es ∧ e.command = name := by
  rw [get?, h.ascending.get?_eq_some_iff, h.perm.mem_iff, List.mem_map]
  constructor
  · rintro ⟨x, hx, heq⟩
    cases heq
    exact ⟨hx, rfl⟩
  · rintro ⟨he, rfl⟩
    exact ⟨e, he, rfl⟩

theorem Holds.names_eq {catalog : Catalog} {es : List Entry} (h : catalog.Holds es) :
    catalog.names = catalog.entries.map (·.command) := by
  unfold names entries Dictionary.names Dictionary.values
  rw [List.map_map]
  refine List.map_congr_left fun p hp => ?_
  obtain ⟨e, -, rfl⟩ := List.mem_map.mp (h.perm.mem_iff.mp hp)
  rfl

theorem Holds.size_eq {catalog : Catalog} {es : List Entry} (h : catalog.Holds es) :
    catalog.size = es.length := by
  simpa [size, Dictionary.size] using h.perm.length_eq

theorem build_cases (settings : CatalogSettings) (cs : List Capability) :
    (Free settings.reserved [] (plan settings cs) ∧ ∃ catalog,
      build settings cs = .ok catalog ∧ catalog.Holds (plan settings cs)) ∨
    (∃ first e rest, plan settings cs = first ++ e :: rest ∧ Free settings.reserved [] first ∧
      Taken settings.reserved first e ∧
      build settings cs = .error (.catalogConsistency e.command)) := by
  unfold build
  rw [assemble_eq_registerAll]
  rcases registerAll_cases settings.reserved (plan settings cs) [] {} holds_empty with
    ⟨hfree, catalog, hok, hholds⟩ | ⟨first, e, rest, hplan, hfree, htaken, herr⟩
  · exact Or.inl ⟨hfree, catalog, by rw [hok]; rfl, hholds⟩
  · exact Or.inr ⟨first, e, rest, hplan, hfree, htaken, by rw [herr]; rfl⟩

theorem holds_of_build {settings : CatalogSettings} {cs : List Capability} {catalog : Catalog}
    (hbuild : build settings cs = .ok catalog) : catalog.Holds (plan settings cs) := by
  rcases build_cases settings cs with ⟨-, _, hok, hholds⟩ | ⟨_, _, _, _, _, _, herr⟩
  · cases hok.symm.trans hbuild
    exact hholds
  · cases herr.symm.trans hbuild

theorem free_iff {reserved : List String} {es : List Entry} :
    Free reserved [] es ↔ (es.map (·.command)).Nodup ∧ ∀ e ∈ es, e.command ∉ reserved := by
  simp [Free, Taken]

theorem not_free_of_taken {reserved : List String} {first rest : List Entry} {e : Entry}
    (ht : Taken reserved first e) : ¬ Free reserved [] (first ++ e :: rest) := by
  rw [free_iff]
  rintro ⟨hnd, hres⟩
  rcases ht with ht | ht
  · exact hres e (by simp) ht
  · rw [List.map_append, List.nodup_append] at hnd
    exact hnd.2.2 e.command ht e.command (by simp) rfl

theorem build_of_free {settings : CatalogSettings} {cs : List Capability}
    (h : Free settings.reserved [] (plan settings cs)) :
    ∃ catalog, build settings cs = .ok catalog := by
  rcases build_cases settings cs with ⟨-, catalog, hok, -⟩ | ⟨_, _, _, hplan, -, htaken, -⟩
  · exact ⟨catalog, hok⟩
  · exact absurd (hplan ▸ h) (not_free_of_taken htaken)

theorem free_of_build {settings : CatalogSettings} {cs : List Capability} {catalog : Catalog}
    (h : build settings cs = .ok catalog) : Free settings.reserved [] (plan settings cs) := by
  rcases build_cases settings cs with ⟨hfree, -⟩ | ⟨_, _, _, -, -, -, herr⟩
  · exact hfree
  · cases herr.symm.trans h

/-- A catalog is made exactly when the names of the plan are distinct and none is reserved, and
then it holds the plan, listed by name.  Otherwise making it fails with the first name of the
plan that is reserved or has come before. -/
theorem build_plan (settings : CatalogSettings) (cs : List Capability) :
    ((∃ catalog, build settings cs = .ok catalog) ↔
      ((plan settings cs).map (·.command)).Nodup ∧
        ∀ e ∈ plan settings cs, e.command ∉ settings.reserved) ∧
    (∀ catalog, build settings cs = .ok catalog →
      catalog.entries.Perm (plan settings cs) ∧
      (∀ name e, catalog.get? name = some e ↔ e ∈ plan settings cs ∧ e.command = name) ∧
      (∀ name, catalog.contains name = true ↔ name ∈ (plan settings cs).map (·.command)) ∧
      catalog.size = (plan settings cs).length ∧
      catalog.names = catalog.entries.map (·.command) ∧ catalog.names.Pairwise (· < ·)) ∧
    (∀ failure, build settings cs = .error failure →
      ∃ first e rest, plan settings cs = first ++ e :: rest ∧
        failure = .catalogConsistency e.command ∧
        (e.command ∈ settings.reserved ∨ e.command ∈ first.map (·.command)) ∧
        (first.map (·.command)).Nodup ∧ ∀ x ∈ first, x.command ∉ settings.reserved) := by
  rw [← free_iff]
  rcases build_cases settings cs with
    ⟨hfree, catalog, hok, h⟩ | ⟨first, e, rest, hplan, hfree, htaken, herr⟩
  · refine ⟨⟨fun _ => hfree, fun _ => ⟨catalog, hok⟩⟩, fun c hc => ?_, fun failure hf => ?_⟩
    · cases hok.symm.trans hc
      exact ⟨h.entries_perm, fun _ _ => h.get?_iff, fun _ => h.contains_iff, h.size_eq,
        h.names_eq, h.ascending⟩
    · cases hok.symm.trans hf
  · refine ⟨⟨fun ⟨c, hc⟩ => ?_, fun hall => ?_⟩, fun c hc => ?_, fun failure hf => ?_⟩
    · cases herr.symm.trans hc
    · exact absurd (hplan ▸ hall) (not_free_of_taken htaken)
    · cases herr.symm.trans hc
    · cases herr.symm.trans hf
      exact ⟨first, e, rest, hplan, rfl, htaken, free_iff.mp hfree⟩

example : (plan {} [⟨"isTextPresent", 1⟩, ⟨"stop", 0⟩, ⟨"open", 1⟩]).map (·.command) =
    ["isTextPresent", "assertTextPresent", "assertTextNotPresent", "verifyTextPresent",
     "verifyTextNotPresent", "isTextPresentAndWait", "open", "openAndWait"] := by
  decide +kernel

end TableTest.Catalog
