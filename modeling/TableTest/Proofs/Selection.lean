/-
`TableTest.Proofs.Selection` — which option is chosen, and what is read of it

An option locator is cut at its first equals sign.  What stands before it may say that the rest is
the position or the label of an option; otherwise the whole locator is taken as a label.  A label
may itself contain an equals sign, and a rest that is no position is not tried as a label.  Every
option of a select can be chosen in two ways, by its label and by its position.
-/
import TableTest.Proofs.Affix
import TableTest.Proofs.Decimal
import TableTest.Proofs.Editing
import TableTest.Proofs.SessionFailure

namespace TableTest.Session

variable {options : List String} {option x : String}

/-! ## What an option locator chooses -/

/-- The names before an equals sign that say how an option is given. -/
def optionStrategies : List String := ["index", "label", "value"]

/-- An option locator chooses an option of a select. -/
inductive Chooses (options : List String) : (option : String) → (chosen : String) → Prop
  | index {position x : String} {i : Nat} : Text.Numeral position.toList i →
      options[i]? = some x → Chooses options ("index=" ++ position) x
  | label {x : String} : x ∈ options → Chooses options ("label=" ++ x) x
  | value {x : String} : x ∈ options → Chooses options ("value=" ++ x) x
  /-- What stands before the first equals sign, if there is one, is no strategy. -/
  | whole {x : String} : (∀ left right, x = left ++ "=" ++ right → '=' ∉ left.toList →
      left ∉ optionStrategies) → x ∈ options → Chooses options x x

theorem find?_label_iff {label : String} :
    options.find? (· == label) = some x ↔ label ∈ options ∧ label = x := by
  constructor
  · intro h
    obtain rfl : x = label := by simpa using List.find?_some h
    exact ⟨List.mem_of_find?_eq_some h, rfl⟩
  · rintro ⟨hin, rfl⟩
    cases h : options.find? (· == label) with
    | none => exact absurd BEq.rfl (List.find?_eq_none.mp h label hin)
    | some y => rw [show y = label by simpa using List.find?_some h]

theorem chooses_of_chosen? (h : chosen? options option = some x) : Chooses options option x := by
  unfold chosen? at h
  split at h
  · next position hcut =>
    obtain ⟨rfl, -⟩ := Text.splitFirst?_eq_some_iff.mp hcut
    obtain ⟨i, hi, hx⟩ := Option.bind_eq_some_iff.mp h
    exact .index (Text.numeral?_eq_some_iff.mp hi) hx
  · next label hcut =>
    obtain ⟨rfl, -⟩ := Text.splitFirst?_eq_some_iff.mp hcut
    obtain ⟨hin, rfl⟩ := find?_label_iff.mp h
    exact .label hin
  · next label hcut =>
    obtain ⟨rfl, -⟩ := Text.splitFirst?_eq_some_iff.mp hcut
    obtain ⟨hin, rfl⟩ := find?_label_iff.mp h
    exact .value hin
  · next hindex hlabel hvalue =>
    obtain ⟨hin, rfl⟩ := find?_label_iff.mp h
    refine .whole ?_ hin
    intro left right hwhole hleft hstrategy
    have hcut : Text.splitFirst? '=' option = some (left, right) :=
      Text.splitFirst?_eq_some_iff.mpr ⟨hwhole, hleft⟩
    simp only [optionStrategies, List.mem_cons, List.not_mem_nil, or_false] at hstrategy
    rcases hstrategy with rfl | rfl | rfl
    · exact hindex right hcut
    · exact hlabel right hcut
    · exact hvalue right hcut

theorem Chooses.chosen?_eq (h : Chooses options option x) : chosen? options option = some x := by
  unfold chosen?
  cases h with
  | @index position x i hi hx =>
      have hcut : Text.splitFirst? '=' ("index=" ++ position) = some ("index", position) :=
        Text.splitFirst?_eq_some_iff.mpr ⟨rfl, by decide⟩
      rw [hcut]
      exact Option.bind_eq_some_iff.mpr ⟨i, Text.numeral?_eq_some_iff.mpr hi, hx⟩
  | label hin =>
      have hcut : Text.splitFirst? '=' ("label=" ++ x) = some ("label", x) :=
        Text.splitFirst?_eq_some_iff.mpr ⟨rfl, by decide⟩
      rw [hcut]
      exact find?_label_iff.mpr ⟨hin, rfl⟩
  | value hin =>
      have hcut : Text.splitFirst? '=' ("value=" ++ x) = some ("value", x) :=
        Text.splitFirst?_eq_some_iff.mpr ⟨rfl, by decide⟩
      rw [hcut]
      exact find?_label_iff.mpr ⟨hin, rfl⟩
  | whole hstrategy hin =>
      split
      case h_4 => exact find?_label_iff.mpr ⟨hin, rfl⟩
      all_goals
        next right hcut =>
        obtain ⟨hwhole, hleft⟩ := Text.splitFirst?_eq_some_iff.mp hcut
        exact absurd (by decide) (hstrategy _ right hwhole hleft)

/-- An option can be chosen by its label and by its position, whatever it is. -/
theorem chooses_of_getElem? {j : Nat} (hx : options[j]? = some x) :
    Chooses options ("label=" ++ x) x ∧ Chooses options ("index=" ++ toString j) x :=
  ⟨.label (List.mem_of_getElem? hx), .index (Text.numeral_toString j) hx⟩

/-! ## Selecting -/

variable {site : Site} {s s' : Session} {locator : String} {i : Nat} {e : Element}

theorem invoke_select_ok_iff {v : Value} (hl : s.Denotes locator i e) (hk : e.kind = .select) :
    invoke site "select" [locator, option] s = (.ok v, s') ↔
      v = .void ∧ ∃ x, Chooses e.options option x ∧
        s' = { s with elements := s.elements.set i { e with selected := some x } } := by
  rw [invoke_action_ok_iff (a := .select locator option) rfl]
  refine and_congr_right fun _ => ?_
  show selectOption locator option s = _ ↔ _
  simp only [selectOption_ok_iff, exists_and_left, hl.exists_locate_iff]
  constructor
  · rintro ⟨-, x, hx, rfl⟩
    exact ⟨x, chooses_of_chosen? hx, rfl⟩
  · rintro ⟨x, hx, rfl⟩
    exact ⟨hk, x, hx.chosen?_eq, rfl⟩

theorem invoke_getSelectedLabel (hl : s.Denotes locator i e) (hk : e.kind = .select)
    (hx : e.selectedLabel? = some x) :
    invoke site "getSelectedLabel" [locator] s = (.ok (.text x), s) := by
  have hlabel : s.labelAt locator = .ok (.text x) := by
    rw [labelAt, hl.element, Except.bind, if_pos (beq_iff_eq.mpr hk), hx]
  rw [invoke_query (q := .selectedLabel locator) rfl, ask, hlabel]

/-- In whatever state the session is, and for every locator of a select: selecting what an option
locator chooses succeeds, changes the chosen option of the select and nothing else, and that option
is the label and the value of the select then.  If the option locator chooses nothing, it is a
failure of the page, and the session stays as it was.  Every option is chosen by its label and by
its position. -/
theorem selected_option (site : Site) {s : Session} {locator : String} {i : Nat} {e : Element}
    (hl : s.Denotes locator i e) (hk : e.kind = .select) (option : String) :
    (∀ x, Chooses e.options option x →
      let s' : Session := { s with elements := s.elements.set i { e with selected := some x } }
      invoke site "select" [locator, option] s = (.ok .void, s') ∧
        invoke site "getSelectedLabel" [locator] s' = (.ok (.text x), s') ∧
        invoke site "getValue" [locator] s' = (.ok (.text x), s')) ∧
    ((∀ x, ¬ Chooses e.options option x) →
      ∃ f, f.isDomain = true ∧ invoke site "select" [locator, option] s = (.error f, s)) ∧
    ∀ (j : Nat) (x : String), e.options[j]? = some x →
      Chooses e.options ("label=" ++ x) x ∧ Chooses e.options ("index=" ++ toString j) x := by
  refine ⟨?_, ?_, fun j x hx => chooses_of_getElem? hx⟩
  · intro x hx s'
    have hl' : s'.Denotes locator i { e with selected := some x } :=
      hl.edit ((Element.Keeps.refl e).select hk (chosen?_mem hx.chosen?_eq))
    refine ⟨?_, ?_, ?_⟩
    · exact (invoke_select_ok_iff hl hk).mpr ⟨rfl, x, hx, rfl⟩
    · exact invoke_getSelectedLabel hl' hk rfl
    · have hvalue : ({ e with selected := some x } : Element).fieldValue = x :=
        Element.fieldValue_of_select hk
      rw [invoke_getValue hl', hvalue]
  · intro hnone
    have hfatal : isFatal (invoke site "select" [locator, option] s).1 = false :=
      isFatal_invoke_of_known site s rfl
    rcases h : invoke site "select" [locator, option] s with ⟨f | v, t⟩
    · obtain rfl : t = s := whole_invoke site (by simp) s f t h
      rw [h] at hfatal
      exact ⟨f, by simpa [isFatal] using hfatal, rfl⟩
    · obtain ⟨-, x, hx, -⟩ := (invoke_select_ok_iff hl hk).mp h
      exact absurd hx (hnone x)

/-- A label that reads like a position is chosen by its label, but not as a whole: what stands
before the equals sign is taken for the way in which an option is given, and the rest is no
position. -/
theorem selected_option_equation :
    let site : Site :=
      { pages := [{ url := "/form", elements :=
          [{ id := some "q", kind := .input },
           { id := some "size", kind := .select, options := ["M", "index=S"] }] }] }
    let s := reached site [.navigate "/form", .invoke "type" ["q", "typed"]]
    (∃ s', invoke site "select" ["size", "label=index=S"] s = (.ok .void, s') ∧
      invoke site "getValue" ["size"] s' = (.ok (.text "index=S"), s') ∧
      s'.elements.map (·.value) = ["typed", ""]) ∧
    ∃ f, invoke site "select" ["size", "index=S"] s = (.error f, s) := by
  intro site s
  let size : Element := { id := some "size", kind := .select, options := ["M", "index=S"] }
  have hsize : s.Denotes "size" 1 size := locate_ok_iff.mp (by rfl)
  constructor
  · obtain ⟨hchosen, -, hways⟩ := selected_option site hsize rfl "label=index=S"
    obtain ⟨hselect, -, hvalue⟩ := hchosen "index=S" (hways 1 "index=S" rfl).1
    exact ⟨_, hselect, hvalue, by decide +kernel⟩
  · obtain ⟨-, hrefused, -⟩ := selected_option site hsize rfl "index=S"
    have hnone : chosen? size.options "index=S" = none := by decide +kernel
    obtain ⟨f, -, hf⟩ := hrefused fun x hx => by
      rw [hx.chosen?_eq] at hnone
      cases hnone
    exact ⟨f, hf⟩

end TableTest.Session
