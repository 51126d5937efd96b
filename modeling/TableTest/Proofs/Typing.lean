/-
`TableTest.Proofs.Typing` — what is typed into a field

A text can be typed into an element that can be edited and is neither a checkbox nor a radio, which
leaves two kinds of elements: inputs and selects.  It becomes the value of the element, and nothing
else changes.  An input gives its value back.  A select does not: its value in a form is the label
of its chosen option, and typing chooses none, so what has been typed into it cannot be read back
unless it is that label already.
-/
import TableTest.Proofs.Editing

namespace TableTest.Session

variable {site : Site} {s s' : Session} {locator text : String} {i : Nat} {e : Element}

/-! ## Into which elements a text can be typed -/

theorem invoke_isEditable_iff :
    invoke site "isEditable" [locator] s = (.ok (.flag true), s) ↔
      ∃ i e, s.Denotes locator i e ∧ e.kind.isField = true ∧ e.editable = true := by
  rw [invoke_query (q := .editable locator) rfl, Prod.mk.injEq, ask, Except.map_ok_iff]
  constructor
  · rintro ⟨⟨e, he, hflag⟩, -⟩
    obtain ⟨i, hi⟩ := element_ok_iff.mp he
    have hboth : (e.kind.isField && e.editable) = true := Value.flag.inj hflag
    exact ⟨i, e, hi, Bool.and_eq_true_iff.mp hboth⟩
  · rintro ⟨i, e, hi, hf, he⟩
    exact ⟨⟨e, hi.element, by rw [hf, he]; rfl⟩, rfl⟩

theorem invoke_type_ok_iff {v : Value} :
    invoke site "type" [locator, text] s = (.ok v, s') ↔
      v = .void ∧ ∃ i e, s.Denotes locator i e ∧ e.kind.isField = true ∧
        e.kind.isToggle = false ∧ e.editable = true ∧
        s' = { s with elements := s.elements.set i { e with value := text } } := by
  rw [invoke_action_ok_iff (a := .type locator text) rfl]
  refine and_congr_right fun _ => ?_
  show typeInto locator text s = _ ↔ _
  rw [typeInto_ok_iff]
  refine exists_congr fun i => exists_congr fun e => ?_
  rw [locate_ok_iff]
  rfl

/-! ## What is read back -/

/-- In whatever state the session is, typing succeeds exactly if the locator denotes an element that
can be edited and is neither a checkbox nor a radio; then the value of that element is the text, and
nothing else has changed.  An input gives the text back as its value.  A select gives what it gave
before, the label of its chosen option. -/
theorem typed_into_field (site : Site) (s : Session) (locator text : String) :
    ((∃ v s', invoke site "type" [locator, text] s = (.ok v, s')) ↔
      ∃ i e, s.Denotes locator i e ∧
        invoke site "isEditable" [locator] s = (.ok (.flag true), s) ∧
        e.kind ≠ .checkbox ∧ e.kind ≠ .radio) ∧
    ∀ v s', invoke site "type" [locator, text] s = (.ok v, s') →
      ∃ i e, s.Denotes locator i e ∧ (e.kind = .input ∨ e.kind = .select) ∧
        s' = { s with elements := s.elements.set i { e with value := text } } ∧
        (e.kind = .input → invoke site "getValue" [locator] s' = (.ok (.text text), s')) ∧
        (e.kind = .select →
          (invoke site "getValue" [locator] s').1 = .ok (.text (e.selectedLabel?.getD "")) ∧
          (invoke site "getValue" [locator] s).1 = .ok (.text (e.selectedLabel?.getD ""))) := by
  refine ⟨⟨?_, ?_⟩, ?_⟩
  · rintro ⟨v, s', htyped⟩
    obtain ⟨-, i, e, hl, hf, ht, he, -⟩ := invoke_type_ok_iff.mp htyped
    refine ⟨i, e, hl, invoke_isEditable_iff.mpr ⟨i, e, hl, hf, he⟩, ?_, ?_⟩
    all_goals
      intro hk
      rw [hk] at ht
      cases ht
  · rintro ⟨i, e, hl, heditable, hbox, hradio⟩
    obtain ⟨j, e', hl', hf, he⟩ := invoke_isEditable_iff.mp heditable
    obtain ⟨rfl, rfl⟩ := hl.unique hl'
    have ht : e.kind.isToggle = false := by
      cases hk : e.kind <;> first | rfl | exact absurd hk hbox | exact absurd hk hradio
    exact ⟨_, _, invoke_type_ok_iff.mpr ⟨rfl, i, e, hl, hf, ht, he, rfl⟩⟩
  · intro v s' htyped
    obtain ⟨-, i, e, hl, hf, ht, he, rfl⟩ := invoke_type_ok_iff.mp htyped
    have hl' := hl.edit ((Element.Keeps.refl e).type hf ht he text)
    refine ⟨i, e, hl, Element.typable_iff.mp ⟨hf, ht⟩, rfl, ?_, ?_⟩
    · intro hk
      have hvalue : ({ e with value := text } : Element).fieldValue = text :=
        Element.fieldValue_of_input hk
      rw [invoke_getValue hl', hvalue]
    · intro hk
      have hvalue : ({ e with value := text } : Element).fieldValue = e.selectedLabel?.getD "" :=
        Element.fieldValue_of_select hk
      rw [invoke_getValue hl', invoke_getValue hl, hvalue, Element.fieldValue_of_select hk]
      exact ⟨rfl, rfl⟩

/-- An input beside a select, in a session that has been to another page. -/
theorem typed_into_field_input :
    let site : Site :=
      { pages := [{ url := "/start" },
          { url := "/form", elements :=
              [{ id := some "q", kind := .input, value := "declared" },
               { id := some "size", kind := .select, options := ["S", "M"] }] }] }
    let s := reached site [.navigate "/start", .navigate "/form"]
    ∃ v s', invoke site "type" ["q", "a = b"] s = (.ok v, s') ∧
      invoke site "getValue" ["q"] s' = (.ok (.text "a = b"), s') ∧
      s'.elements.map (·.value) = ["a = b", ""] ∧ s'.history = ["/start"] := by
  intro site s
  let q : Element := { id := some "q", kind := .input, value := "declared" }
  obtain ⟨hsucceeds, hthen⟩ := typed_into_field site s "q" "a = b"
  have hq : s.Denotes "q" 0 q := locate_ok_iff.mp (by rfl)
  have heditable : invoke site "isEditable" ["q"] s = (.ok (.flag true), s) := by decide +kernel
  obtain ⟨v, s', htyped⟩ := hsucceeds.mpr ⟨0, q, hq, heditable, by decide, by decide⟩
  obtain ⟨i, e, he, -, hs', hinput, -⟩ := hthen v s' htyped
  obtain ⟨rfl, rfl⟩ := hq.unique he
  refine ⟨v, s', htyped, hinput rfl, ?_, ?_⟩
  · rw [hs']
    decide +kernel
  · rw [hs']
    decide +kernel

/-- What is typed into a select is neither its value nor its label. -/
theorem typed_into_select :
    let site : Site :=
      { pages := [{ url := "/form", elements :=
          [{ id := some "size", kind := .select, options := ["S", "M"] }] }] }
    let s := reached site [.navigate "/form"]
    let s' := s.after site (.invoke "type" ["size", "M"])
    invoke site "type" ["size", "M"] s = (.ok .void, s') ∧
      invoke site "getValue" ["size"] s' = (.ok (.text "S"), s') := by
  decide +kernel

end TableTest.Session
