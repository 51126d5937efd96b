/-
`TableTest.Proofs.ScriptResolution` — what a script resolves to

A script resolves as a whole or not at all, and it does if the catalog has every command that it
names.  Each row then has a step of its own, which no other row has a part in: the command that the
catalog has under the name of the row calls the method of its capability, with as many columns of
the row as the method takes, and hands the result back, or compares it with the column that is left
free, or waits after it.
-/
import TableTest.Handle.Prepared
import TableTest.Proofs.CheckFamily
import TableTest.Proofs.Resolution

namespace TableTest

/-- What a step on a row does after its invocation, by the form of its command and the number of
arguments of its method: it compares with the column after the arguments, and waits for as long as
it is set. -/
inductive CommandForm.Acts (timeout : String) (row : Row) (arity : Nat) :
    CommandForm → StepAction → Prop
  | action : Acts timeout row arity .action .invoke
  | target {mode : CheckMode} {x : Expectation} : arity = 0 →
      Acts timeout row arity (.check mode .target x) (.compare row.target x)
  | value {mode : CheckMode} {x : Expectation} : arity = 1 →
      Acts timeout row arity (.check mode .value x) (.compare row.value x)
  | andWait : Acts timeout row arity (.andWait timeout) (.invokeAndWait timeout)

/-- The step is the one of the command on a row. -/
structure Entry.Serves (timeout : String) (entry : Entry) (row : Row) (step : Step) : Prop where
  command : step.command = row.command
  method : step.method = entry.capability.name
  arity : step.args.length = entry.capability.arity
  args : step.args = [row.target, row.value].take entry.capability.arity
  action : entry.form.Acts timeout row entry.capability.arity step.action

namespace Catalog

variable {settings : CatalogSettings} {cs : List Capability} {catalog : Catalog} {entry : Entry}
  {row : Row} {step : Step}

/-! ## The commands that are registered -/

theorem acts_of_mem_planned {timeout : String} {c : Capability} (he : entry ∈ planned timeout c)
    (row : Row) : entry.form.Acts timeout row c.arity (entry.stepAction row) := by
  rcases planned_cases he with rfl | ⟨short, column, mode, x, -, hcolumn, rfl⟩ | rfl
  · exact .action
  · have hform : (Entry.checkOf c short column mode x).form = .check mode column x := by
      cases x <;> rfl
    rw [Entry.stepAction, hform]
    unfold Column.forArity? at hcolumn
    split at hcolumn
    · next harity =>
      cases hcolumn
      exact .target harity
    · next harity =>
      cases hcolumn
      exact .value harity
    · cases hcolumn
  · exact .andWait

/-- Every command of a catalog serves the rows that name it. -/
theorem serves_of_build (hbuild : build settings cs = .ok catalog)
    (hentry : catalog.get? row.command = some entry) :
    entry.Serves settings.timeoutText row (entry.step row) := by
  obtain ⟨hplan, hcommand⟩ := (holds_of_build hbuild).get?_iff.mp hentry
  obtain ⟨c, hc, hin⟩ := List.mem_flatMap.mp hplan
  obtain rfl := capability_of_mem_planned hin
  have harity := arity_of_mem_usableAfter hc
  exact {
    command := hcommand
    method := rfl
    arity := by
      show (entry.capability.bind row.target row.value).length = _
      rw [Capability.bind, List.length_take]
      exact Nat.min_eq_left harity
    args := rfl
    action := acts_of_mem_planned hin row }

/-! ## Row by row -/

/-- With a catalog that could be made, a script resolves exactly if the catalog has every command
that it names.  Then it resolves to one step for each row, in the order of the rows: the step is
what the row alone resolves to, and the one of the command that the catalog has under the name of
the row.  Otherwise it fails with the first command that the catalog does not have.  A script in two
parts resolves to the steps of the first part and then those of the second, and fails as the first
part that fails. -/
theorem resolve_row_by_row (hbuild : build settings cs = .ok catalog) (rows : List Row) :
    ((∃ steps, catalog.resolve rows = .ok steps) ↔
      ∀ row ∈ rows, catalog.contains row.command = true) ∧
    (∀ steps, catalog.resolve rows = .ok steps →
      List.Forall₂ (fun row step => catalog.resolve [row] = .ok [step] ∧
        ∃ entry, catalog.get? row.command = some entry ∧
          entry.Serves settings.timeoutText row step) rows steps) ∧
    (∀ e, catalog.resolve rows = .error e ↔
      ∃ before row after, rows = before ++ row :: after ∧
        (∀ r ∈ before, catalog.contains r.command = true) ∧
        catalog.contains row.command = false ∧ e = .unknownCommand row.command) ∧
    (∀ more, catalog.resolve (rows ++ more) =
      (catalog.resolve rows).bind fun steps => (catalog.resolve more).map (steps ++ ·)) := by
  refine ⟨resolve_succeeds_iff, ?_, fun e => resolve_error_iff, resolve_append rows⟩
  intro steps hok
  refine (resolve_ok_iff.mp hok).imp ?_
  intro row step hrow
  obtain ⟨entry, hentry, rfl⟩ := resolveRow_ok_iff.mp hrow
  have hone : catalog.resolve [row] = .ok [entry.step row] :=
    resolve_ok_iff.mpr (.cons hrow .nil)
  exact ⟨hone, entry, hentry, serves_of_build hbuild hentry⟩

/-- A check and a click that waits, and a command that is none. -/
theorem resolve_row_by_row_title :
    ∃ catalog, build {} [⟨"getTitle", 0⟩, ⟨"click", 1⟩] = .ok catalog ∧
      let rows : List Row := [⟨"assertTitle", "Home", ""⟩, ⟨"clickAndWait", "next", ""⟩]
      (∃ steps, catalog.resolve rows = .ok steps ∧ steps.length = 2) ∧
      (∀ steps, catalog.resolve rows = .ok steps → ∃ first, steps =
        [first, ⟨"clickAndWait", "click", ["next"], .invokeAndWait "30000"⟩]) ∧
      catalog.resolve (rows ++ [⟨"frobnicate", "", ""⟩]) =
        .error (.unknownCommand "frobnicate") := by
  cases hbuild : build {} [⟨"getTitle", 0⟩, ⟨"click", 1⟩] with
  | error e =>
      have hok : (build {} [⟨"getTitle", 0⟩, ⟨"click", 1⟩]).isOk = true := by decide +kernel
      rw [hbuild] at hok
      cases hok
  | ok catalog =>
      refine ⟨catalog, rfl, ?_⟩
      intro rows
      have hholds := holds_of_build hbuild
      obtain ⟨hsucceeds, hsteps, -, -⟩ := resolve_row_by_row hbuild rows
      have hin : ∀ row ∈ rows, catalog.contains row.command = true := by
        intro row hrow
        refine hholds.contains_iff.mpr ?_
        revert row
        decide +kernel
      have hno : catalog.contains "frobnicate" = false := by
        rw [← Bool.not_eq_true, hholds.contains_iff]
        decide +kernel
      have hwait : catalog.get? "clickAndWait" =
          some ⟨"clickAndWait", ⟨"click", 1⟩, .andWait "30000"⟩ :=
        hholds.get?_iff.mpr ⟨by decide +kernel, rfl⟩
      refine ⟨?_, ?_, ?_⟩
      · obtain ⟨steps, hok⟩ := hsucceeds.mpr hin
        exact ⟨steps, hok, resolve_length hok⟩
      · intro steps hok
        obtain ⟨first, rest, -, hrest, rfl⟩ := List.forall₂_cons_left_iff.mp (hsteps steps hok)
        obtain ⟨step, none, ⟨-, entry, hentry, hserves⟩, hnone, rfl⟩ :=
          List.forall₂_cons_left_iff.mp hrest
        obtain rfl := List.forall₂_nil_left_iff.mp hnone
        cases hwait.symm.trans hentry
        obtain ⟨command, method, args, action⟩ := step
        obtain ⟨rfl, rfl, -, rfl, ⟨⟩⟩ := hserves
        exact ⟨first, rfl⟩
      · obtain ⟨-, -, hfails, -⟩ := resolve_row_by_row hbuild (rows ++ [⟨"frobnicate", "", ""⟩])
        exact (hfails _).mpr ⟨rows, _, [], rfl, hin, hno, rfl⟩

end Catalog

end TableTest
