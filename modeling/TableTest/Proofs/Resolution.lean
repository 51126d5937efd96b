/-
`TableTest.Proofs.Resolution` — the steps of a script

The rows of a script table with at least three cells are its script.  Resolving goes through
them row by row: it gives one step for each, or fails with the command of a row that the catalog
does not have.
-/
import Mathlib.Data.List.Forall2
import TableTest.Catalog
import TableTest.Proofs.Failure

namespace TableTest

theorem Row.isSome_ofCells? (cells : List String) :
    (ofCells? cells).isSome = decide (3 ≤ cells.length) := by
  match cells with
  | [] | [_] | [_, _] => rfl
  | _ :: _ :: _ :: _ => simp [ofCells?]

theorem Row.length_ofTable (table : List (List String)) :
    (ofTable table).length = table.countP (3 ≤ ·.length) := by
  rw [ofTable, List.length_filterMap_eq_countP]
  exact congrArg (table.countP ·) (funext isSome_ofCells?)

namespace Catalog

variable {catalog : Catalog}

theorem contains_iff_get? {name : String} :
    catalog.contains name = true ↔ ∃ entry, catalog.get? name = some entry :=
  Option.isSome_iff_exists

theorem resolveRow_ok_iff {row : Row} {step : Step} :
    catalog.resolveRow row = .ok step ↔
      ∃ entry, catalog.get? row.command = some entry ∧ step = entry.step row := by
  unfold resolveRow
  cases catalog.get? row.command <;> simp [eq_comm]

theorem resolveRow_error_iff {row : Row} {e : Failure} :
    catalog.resolveRow row = .error e ↔
      catalog.contains row.command = false ∧ e = .unknownCommand row.command := by
  have hcontains : catalog.contains row.command = (catalog.get? row.command).isSome := rfl
  rw [hcontains, resolveRow]
  cases catalog.get? row.command <;> simp [eq_comm]

/-- A script resolves to the steps of its rows. -/
theorem resolve_ok_iff : ∀ {rows : List Row} {steps : List Step},
    catalog.resolve rows = .ok steps ↔
      List.Forall₂ (fun row step => catalog.resolveRow row = .ok step) rows steps
  | [], steps => by
      rw [resolve, List.forall₂_nil_left_iff, Except.ok.injEq, eq_comm]
  | row :: rows, steps => by
      rw [resolve, Except.bind_ok_iff, List.forall₂_cons_left_iff]
      simp only [Except.map_ok_iff, resolve_ok_iff]
      constructor
      · rintro ⟨step, hrow, rest, hrest, rfl⟩
        exact ⟨step, rest, hrow, hrest, rfl⟩
      · rintro ⟨step, rest, hrow, hrest, rfl⟩
        exact ⟨step, hrow, rest, hrest, rfl⟩

theorem resolve_length {rows : List Row} {steps : List Step}
    (h : catalog.resolve rows = .ok steps) : steps.length = rows.length :=
  (resolve_ok_iff.mp h).length_eq.symm

/-- A script resolves if the catalog has all its commands, and fails with the first that it does
not have. -/
theorem resolve_cases : ∀ rows : List Row,
    ((∀ row ∈ rows, catalog.contains row.command = true) ∧
      ∃ steps, catalog.resolve rows = .ok steps) ∨
    ∃ before row after, rows = before ++ row :: after ∧
      (∀ r ∈ before, catalog.contains r.command = true) ∧
      catalog.contains row.command = false ∧
      catalog.resolve rows = .error (.unknownCommand row.command)
  | [] => Or.inl ⟨nofun, [], rfl⟩
  | row :: rows => by
      rw [resolve]
      cases hrow : catalog.resolveRow row with
      | error e =>
          obtain ⟨hno, rfl⟩ := resolveRow_error_iff.mp hrow
          exact Or.inr ⟨[], row, rows, rfl, nofun, hno, rfl⟩
      | ok step =>
          obtain ⟨entry, hentry, -⟩ := resolveRow_ok_iff.mp hrow
          have hin : catalog.contains row.command = true := contains_iff_get?.mpr ⟨entry, hentry⟩
          rcases resolve_cases rows with
            ⟨hall, steps, hok⟩ | ⟨before, r, after, rfl, hbefore, hno, herr⟩
          · refine Or.inl ⟨List.forall_mem_cons.mpr ⟨hin, hall⟩, step :: steps, ?_⟩
            rw [hok]
            rfl
          · refine Or.inr ⟨row :: before, r, after, rfl,
              List.forall_mem_cons.mpr ⟨hin, hbefore⟩, hno, ?_⟩
            rw [herr]
            rfl

theorem resolve_succeeds_iff {rows : List Row} :
    (∃ steps, catalog.resolve rows = .ok steps) ↔
      ∀ row ∈ rows, catalog.contains row.command = true := by
  rcases catalog.resolve_cases rows with ⟨hall, hok⟩ | ⟨before, row, after, rfl, -, hno, herr⟩
  · exact ⟨fun _ => hall, fun _ => hok⟩
  · constructor
    · rintro ⟨steps, hok⟩
      cases herr.symm.trans hok
    · intro hall
      have hin := hall row (by simp)
      rw [hno] at hin
      cases hin

theorem resolve_fails {rows : List Row} {e : Failure} (h : catalog.resolve rows = .error e) :
    ∃ row ∈ rows, e = .unknownCommand row.command := by
  rcases catalog.resolve_cases rows with ⟨-, steps, hok⟩ | ⟨before, row, after, rfl, -, -, herr⟩
  · cases hok.symm.trans h
  · cases herr.symm.trans h
    exact ⟨row, by simp, rfl⟩

theorem resolve_append (first rest : List Row) :
    catalog.resolve (first ++ rest) =
      (catalog.resolve first).bind fun steps => (catalog.resolve rest).map (steps ++ ·) := by
  induction first with
  | nil => cases hr : catalog.resolve rest <;> simp [resolve, Except.bind, Except.map, hr]
  | cons row rows ih =>
      rw [List.cons_append, resolve, resolve, ih]
      cases catalog.resolveRow row <;> cases catalog.resolve rows <;>
        cases catalog.resolve rest <;> rfl

/-- A script fails to resolve with the first command that the catalog does not have. -/
theorem resolve_error_iff {rows : List Row} {e : Failure} :
    catalog.resolve rows = .error e ↔
      ∃ before row after, rows = before ++ row :: after ∧
        (∀ r ∈ before, catalog.contains r.command = true) ∧
        catalog.contains row.command = false ∧ e = .unknownCommand row.command := by
  constructor
  · intro h
    rcases catalog.resolve_cases rows with
      ⟨-, steps, hok⟩ | ⟨before, row, after, hrows, hbefore, hno, herr⟩
    · cases hok.symm.trans h
    · cases herr.symm.trans h
      exact ⟨before, row, after, hrows, hbefore, hno, rfl⟩
  · rintro ⟨before, row, after, rfl, hbefore, hno, rfl⟩
    obtain ⟨steps, hok⟩ := resolve_succeeds_iff.mpr hbefore
    rw [resolve_append, hok, Except.bind, resolve, resolveRow_error_iff.mpr ⟨hno, rfl⟩]
    rfl

/-- A script with one row more resolves exactly if it does without it, to one step more in its
place. -/
theorem resolve_insert {row : Row} {step : Step} (hrow : catalog.resolveRow row = .ok step)
    (first rest : List Row) :
    (∃ e, catalog.resolve (first ++ rest) = .error e ∧
      catalog.resolve (first ++ row :: rest) = .error e) ∨
    ∃ before after, catalog.resolve first = .ok before ∧
      catalog.resolve (first ++ rest) = .ok (before ++ after) ∧
      catalog.resolve (first ++ row :: rest) = .ok (before ++ step :: after) := by
  simp only [resolve_append, resolve, hrow]
  cases catalog.resolve first with
  | error e => exact Or.inl ⟨e, rfl, rfl⟩
  | ok before =>
      cases catalog.resolve rest with
      | error e => exact Or.inl ⟨e, rfl, rfl⟩
      | ok after => exact Or.inr ⟨before, after, rfl, rfl, rfl⟩

/-- Every step is made of a row and the command that the catalog has under its name. -/
theorem step_of_resolve {step : Step} {rows : List Row} {steps : List Step}
    (h : catalog.resolve rows = .ok steps) (hstep : step ∈ steps) :
    ∃ row ∈ rows, ∃ entry, catalog.get? row.command = some entry ∧ step = entry.step row := by
  replace h := resolve_ok_iff.mp h
  induction h with
  | nil => cases hstep
  | @cons row first rows rest hrow _ ih =>
      rcases List.mem_cons.mp hstep with rfl | hstep
      · exact ⟨row, List.mem_cons_self, resolveRow_ok_iff.mp hrow⟩
      · obtain ⟨r, hin, hentry⟩ := ih hstep
        exact ⟨r, List.mem_cons_of_mem _ hin, hentry⟩

end Catalog

end TableTest
