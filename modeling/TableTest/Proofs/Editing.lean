/-
`TableTest.Proofs.Editing` — elements before and after they are edited

A locator that can be read denotes the first element that it finds.  Editing an element does not
touch what locators look for, so afterwards they still denote what they did: what has been written
to an element through a locator is there when it is asked for through the same one.
-/
import TableTest.Proofs.SessionInvariant

namespace TableTest

/-! ## What a form sends -/

theorem Element.fieldValue_of_input {e : Element} (hk : e.kind = .input) :
    e.fieldValue = e.value := by
  rw [fieldValue, hk]

theorem Element.fieldValue_of_select {e : Element} (hk : e.kind = .select) :
    e.fieldValue = e.selectedLabel?.getD "" := by
  rw [fieldValue, hk]

namespace Session

variable {site : Site} {s s' : Session} {locator : String} {i : Nat} {e : Element}

/-! ## What a locator denotes -/

/-- In a session, a locator denotes the element `e`, which is at position `i`. -/
def Denotes (s : Session) (locator : String) (i : Nat) (e : Element) : Prop :=
  ∃ l, Locator.parse locator = .ok l ∧ l.find? s.elements = some i ∧ s.elements[i]? = some e

theorem find_ok_iff : s.find locator = .ok i ↔
    ∃ l, Locator.parse locator = .ok l ∧ l.find? s.elements = some i := by
  unfold find
  rw [Except.bind_ok_iff]
  refine exists_congr fun l => and_congr_right fun _ => ?_
  cases l.find? s.elements <;> simp

theorem locate_ok_iff : s.locate locator = .ok (i, e) ↔ s.Denotes locator i e := by
  unfold locate
  rw [Except.bind_ok_iff]
  constructor
  · rintro ⟨j, hj, h⟩
    obtain ⟨l, hl, hf⟩ := find_ok_iff.mp hj
    split at h
    · next he =>
      cases h
      exact ⟨l, hl, hf, he⟩
    · cases h
  · rintro ⟨l, hl, hf, he⟩
    exact ⟨i, find_ok_iff.mpr ⟨l, hl, hf⟩, by rw [he]⟩

theorem element_ok_iff : s.element locator = .ok e ↔ ∃ i, s.Denotes locator i e := by
  unfold element
  rw [Except.map_ok_iff]
  constructor
  · rintro ⟨⟨i, e'⟩, h, rfl⟩
    exact ⟨i, locate_ok_iff.mp h⟩
  · rintro ⟨i, h⟩
    exact ⟨(i, e), locate_ok_iff.mpr h, rfl⟩

theorem Denotes.getElem? (h : s.Denotes locator i e) : s.elements[i]? = some e := by
  obtain ⟨l, -, -, he⟩ := h
  exact he

theorem Denotes.element (h : s.Denotes locator i e) : s.element locator = .ok e :=
  element_ok_iff.mpr ⟨i, h⟩

theorem Denotes.unique {j : Nat} {e' : Element} (h : s.Denotes locator i e)
    (h' : s.Denotes locator j e') : i = j ∧ e = e' := by
  have hsame := (locate_ok_iff.mpr h).symm.trans (locate_ok_iff.mpr h')
  cases hsame
  exact ⟨rfl, rfl⟩

/-- What is done to the element that a locator denotes is done to `e`. -/
theorem Denotes.exists_locate_iff {P : Nat → Element → Prop} (h : s.Denotes locator i e) :
    (∃ j e', s.locate locator = .ok (j, e') ∧ P j e') ↔ P i e := by
  constructor
  · rintro ⟨j, e', h', hP⟩
    obtain ⟨rfl, rfl⟩ := h.unique (locate_ok_iff.mp h')
    exact hP
  · intro hP
    exact ⟨i, e, locate_ok_iff.mpr h, hP⟩

/-- An element that is edited where a page may be edited is still denoted by its locator. -/
theorem Denotes.edit {e' : Element} (h : s.Denotes locator i e) (hk : e.Keeps e') :
    Denotes { s with elements := s.elements.set i e' } locator i e' := by
  obtain ⟨l, hl, hf, he⟩ := h
  have hkept : Kept s.elements (s.elements.set i e') := (Kept.refl s.elements).set_right he hk
  refine ⟨l, hl, (hkept.find?_eq l).trans hf, ?_⟩
  have hi : i < s.elements.length := (List.getElem?_eq_some_iff.mp he).1
  simp [hi]

/-! ## Invocations -/

theorem invoke_query {method : String} {args : List String} {q : Query}
    (hc : Command.ofCall? method args = some (.query q)) :
    invoke site method args s = (s.ask site q, s) := by
  rw [invoke, hc]
  rfl

theorem invoke_action_ok_iff {method : String} {args : List String} {a : Action} {v : Value}
    (hc : Command.ofCall? method args = some (.action a)) :
    invoke site method args s = (.ok v, s') ↔ v = .void ∧ perform site a s = (.ok (), s') := by
  rw [invoke, hc]
  show (perform site a >>= fun _ => pure Value.void) s = _ ↔ _
  rw [Procedure.bind_ok_iff]
  constructor
  · rintro ⟨⟨⟩, t, h, hpure⟩
    cases hpure
    exact ⟨rfl, h⟩
  · rintro ⟨rfl, h⟩
    exact ⟨(), s', h, rfl⟩

theorem invoke_getValue (h : s.Denotes locator i e) :
    invoke site "getValue" [locator] s = (.ok (.text e.fieldValue), s) := by
  rw [invoke_query (q := .value locator) rfl, ask, h.element]
  rfl

end Session

end TableTest
