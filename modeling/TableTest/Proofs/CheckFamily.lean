/-
`TableTest.Proofs.CheckFamily` — what the checks of an accessor do

An accessor that leaves a column of its row free has four checks, named after its short name and
the negation of that.  Nothing else in a catalog goes by these names, so what they do follows from
the accessor alone: each of them invokes it once, with the row's arguments.  Unless that fails, the
plain checks and the negated ones come to opposite ends, and which of the two passes depends on
the text form of what the accessor hands back.
-/
import TableTest.Handle.Prepared
import TableTest.Proofs.Registration
import TableTest.Proofs.Step

namespace TableTest

variable {σ : Type}

/-! ## What a check makes of a value -/

theorem Value.agreesWith_iff {v : Value} {expected : String} :
    v.agreesWith expected = true ↔ v.asText? = some expected := beq_iff_eq

/-- What the plain and the negated check of an invocation make of its result. -/
structure Opposite (method : String) (args : List String) (result : Except Failure Value)
    (expected : String) (plain negated : Except Failure Value) : Prop where
  /-- An invocation that fails is the failure of both. -/
  failing : ∀ e, result = .error e →
    plain = .error (.ofCall method args e) ∧ negated = .error (.ofCall method args e)
  /-- A value with the expected text form passes the plain check only. -/
  agreeing : ∀ v, result = .ok v → v.asText? = some expected →
    plain = .ok v ∧
      negated = .error (.assertionFailed (Expectation.notEqual.complaint v expected))
  /-- Any other value passes the negated check only. -/
  differing : ∀ v, result = .ok v → v.asText? ≠ some expected →
    plain = .error (.assertionFailed (Expectation.equal.complaint v expected)) ∧
      negated = .ok v
  /-- So does no value at all. -/
  void : result = .ok .void →
    plain = .error (.assertionFailed (Expectation.equal.complaint .void expected)) ∧
      negated = .ok .void

theorem opposite_checks (method : String) (args : List String) (result : Except Failure Value)
    (expected : String) :
    let checked (x : Expectation) :=
      (result.mapError (.ofCall method args)).bind (x.check · expected)
    Opposite method args result expected (checked .equal) (checked .notEqual) := by
  intro checked
  have differing : ∀ v, result = .ok v → v.asText? ≠ some expected →
      checked .equal = .error (.assertionFailed (Expectation.equal.complaint v expected)) ∧
        checked .notEqual = .ok v := by
    rintro v rfl hne
    have hv : v.agreesWith expected = false :=
      Bool.eq_false_iff.mpr fun h => hne (Value.agreesWith_iff.mp h)
    simp [checked, Except.bind, Expectation.check, Expectation.holds, hv]
  refine ⟨?_, ?_, differing, fun hr => differing .void hr nofun⟩
  · rintro e rfl
    exact ⟨rfl, rfl⟩
  · rintro v rfl heq
    have hv : v.agreesWith expected = true := Value.agreesWith_iff.mpr heq
    simp [checked, Except.bind, Expectation.check, Expectation.holds, hv]

theorem Step.execute_compare (h : Handle σ) {step : Step} {expected : String} {x : Expectation}
    (ha : step.action = .compare expected x) (s : σ) (seen : List Call) :
    step.execute h.traced (s, seen) =
      (((h.invoke step.method step.args s).1.mapError (.ofCall step.method step.args)).bind
          (x.check · expected),
        (h.invoke step.method step.args s).2, seen ++ [.invoke step.method step.args]) := by
  rw [execute_traced, execute, calls, callsAfter, ha]
  rfl

namespace Catalog

/-! ## The checks that are registered -/

/-- The column that a method of at most one argument leaves free, with the arguments it takes. -/
theorem column_of_le_one {c : Capability} (harity : c.arity ≤ 1) : ∃ column,
    Column.forArity? c.arity = some column ∧ ∀ row : Row,
      c.bind row.target row.value = (if c.arity = 0 then [] else [row.target]) ∧
      row.cell column = if c.arity = 0 then row.target else row.value := by
  obtain ⟨name, arity⟩ := c
  match arity, harity with
  | 0, _ => exact ⟨.target, rfl, fun _ => ⟨rfl, rfl⟩⟩
  | 1, _ => exact ⟨.value, rfl, fun _ => ⟨rfl, rfl⟩⟩

theorem capability_of_mem_planned {timeout : String} {c : Capability} {e : Entry}
    (he : e ∈ planned timeout c) : e.capability = c := by
  rcases planned_cases he with rfl | ⟨_, _, _, x, -, -, rfl⟩ | rfl
  · rfl
  · cases x <;> rfl
  · rfl

theorem checkOf_mem_planned {timeout short : String} {c : Capability} {column : Column}
    (hshort : Naming.shortName? c.name = some short)
    (hcolumn : Column.forArity? c.arity = some column) (mode : CheckMode) (x : Expectation) :
    Entry.checkOf c short column mode x ∈ planned timeout c := by
  have hin : Entry.checkOf c short column mode x ∈ Entry.checksOf c short column := by
    cases mode <;> cases x <;> simp [Entry.checksOf]
  rw [← family_eq_planned, Entry.family, Entry.checks, hshort, hcolumn]
  exact List.mem_append_left _ (List.mem_append_right _ hin)

variable {settings : CatalogSettings} {cs : List Capability} {catalog : Catalog} {entry : Entry}

/-- Whatever is registered of an accessor, its checks are registered under their names. -/
theorem Holds.get?_checkOf (hcatalog : catalog.Holds (plan settings cs))
    (hentry : entry ∈ catalog.entries) {short : String} {column : Column}
    (hshort : Naming.shortName? entry.capability.name = some short)
    (hcolumn : Column.forArity? entry.capability.arity = some column) (mode : CheckMode)
    (x : Expectation) :
    let check := Entry.checkOf entry.capability short column mode x
    catalog.get? check.command = some check := by
  intro check
  -- the entry comes from the family of its capability, and the check is of that family too
  obtain ⟨c, hc, hin⟩ := List.mem_flatMap.mp (hcatalog.entries_perm.mem_iff.mp hentry)
  cases capability_of_mem_planned hin
  exact hcatalog.get?_iff.mpr
    ⟨List.mem_flatMap.mpr ⟨_, hc, checkOf_mem_planned hshort hcolumn mode x⟩, rfl⟩

/-! ## What they do -/

/-- A check on a row, executed: one invocation of its capability, whose result is checked against
what the row holds in its column. -/
theorem execute_checkOf (h : Handle σ) (c : Capability) (short : String) (column : Column)
    (mode : CheckMode) (x : Expectation) (row : Row) (s : σ) (seen : List Call) :
    let args := c.bind row.target row.value
    ((Entry.checkOf c short column mode x).step row).execute h.traced (s, seen) =
      (((h.invoke c.name args s).1.mapError (.ofCall c.name args)).bind
          (x.check · (row.cell column)),
        (h.invoke c.name args s).2, seen ++ [.invoke c.name args]) := by
  cases x with
  | equal | notEqual => exact Step.execute_compare h rfl s seen

/-- The checks of a registered accessor that takes no argument or one: each invokes it once and
does nothing else.  The two plain ones come to the same end, and so do the two negated ones; the
ends are opposite. -/
theorem checks_of_accessor (hbuild : build settings cs = .ok catalog)
    (hentry : entry ∈ catalog.entries) {short : String}
    (hshort : Naming.shortName? entry.capability.name = some short)
    (harity : entry.capability.arity ≤ 1) (target value : String) (h : Handle σ) (s : σ)
    (seen : List Call) :
    let m := entry.capability
    let args := if m.arity = 0 then [] else [target]
    let expected := if m.arity = 0 then target else value
    let run command :=
      (catalog.resolveRow ⟨command, target, value⟩).map (·.execute h.traced (s, seen))
    let state := ((h.invoke m.name args s).2, seen ++ [.invoke m.name args])
    ∃ plain negated,
      (∀ mode : CheckMode, run (mode.commandName short) = .ok (plain, state)) ∧
      (∀ mode : CheckMode,
        run (mode.commandName (Naming.negate short)) = .ok (negated, state)) ∧
      Opposite m.name args (h.invoke m.name args s).1 expected plain negated := by
  intro m args expected run state
  obtain ⟨column, hcolumn, hrow⟩ := column_of_le_one harity
  let checked (x : Expectation) :=
    ((h.invoke m.name args s).1.mapError (.ofCall m.name args)).bind (x.check · expected)
  have hrun (mode : CheckMode) (x : Expectation) :
      run (Entry.checkOf m short column mode x).command = .ok (checked x, state) := by
    have hget := (holds_of_build hbuild).get?_checkOf hentry hshort hcolumn mode x
    simp only [run, resolveRow, m, hget, Except.map]
    rw [execute_checkOf, (hrow _).1, (hrow _).2]
  exact ⟨checked .equal, checked .notEqual, fun mode => hrun mode .equal,
    fun mode => hrun mode .notEqual, opposite_checks m.name args _ expected⟩

/-- The checks of a text that the page shows, expected to be there. -/
theorem checks_of_accessor_shown : ∃ catalog, build {} [⟨"isTextPresent", 1⟩] = .ok catalog ∧
    ∀ mode : CheckMode,
      let p : Prepared := { answers := [("isTextPresent", [.ok (.flag true)])] }
      let run command := (catalog.resolveRow ⟨command, "Welcome", "true"⟩).map
        (·.execute Prepared.handle.traced (p, []))
      let state := (p, [Call.invoke "isTextPresent" ["Welcome"]])
      run (mode.commandName "TextPresent") = .ok (.ok (.flag true), state) ∧
      run (mode.commandName "TextNotPresent") =
        .ok (.error (.assertionFailed "Did not expect \"true\" but saw it"), state) := by
  cases hbuild : build {} [⟨"isTextPresent", 1⟩] with
  | error e =>
      have hok : (build {} [⟨"isTextPresent", 1⟩]).isOk = true := by decide +kernel
      rw [hbuild] at hok
      cases hok
  | ok catalog =>
      have hentry : ⟨"isTextPresent", ⟨"isTextPresent", 1⟩, .action⟩ ∈ catalog.entries :=
        (holds_of_build hbuild).entries_perm.mem_iff.mpr (by decide +kernel)
      have hshort : Naming.shortName? "isTextPresent" = some "TextPresent" := by decide +kernel
      obtain ⟨plain, negated, hplain, hnegated, hopposite⟩ :=
        checks_of_accessor hbuild hentry hshort (Nat.le_refl 1) "Welcome" "true"
          Prepared.handle { answers := [("isTextPresent", [.ok (.flag true)])] } []
      obtain ⟨rfl, rfl⟩ := hopposite.agreeing (.flag true) rfl rfl
      exact ⟨catalog, rfl, fun mode => ⟨hplain mode, hnegated mode⟩⟩

end Catalog

end TableTest
