/-
`TableTest.Proofs.Denotation` — what a locator denotes

A text means one of three things in a session: it is refused as a locator, it denotes nothing, or it
denotes an element, which is the first that matches.  Looking for the element, or for its position,
comes to just that.
-/
import TableTest.Proofs.LocatorSyntax
import TableTest.Proofs.Editing

namespace TableTest

variable {es : List Element} {p : Element → Prop} {i : Nat} {e : Element}

/-! ## The first element that matches -/

/-- The first element with a property is at position `i`. -/
def FirstAt (es : List Element) (p : Element → Prop) (i : Nat) : Prop :=
  (∃ e, es[i]? = some e ∧ p e) ∧ ∀ j e, j < i → es[j]? = some e → ¬ p e

/-- The locator finds the element at a position.  An identifier is the id of an element, and a name
only if no element has it as its id. -/
inductive Locator.Finds (es : List Element) : Locator → Nat → Prop
  | id {value : String} {i : Nat} : FirstAt es (·.id = some value) i → Finds es (.id value) i
  | name {value : String} {i : Nat} : FirstAt es (·.name = some value) i → Finds es (.name value) i
  | link {text : String} {i : Nat} : FirstAt es (fun e => e.kind = .link ∧ e.text = text) i →
      Finds es (.link text) i
  | ident {value : String} {i : Nat} : FirstAt es (·.id = some value) i →
      Finds es (.identifier value) i
  | fallback {value : String} {i : Nat} : (∀ e ∈ es, e.id ≠ some value) →
      FirstAt es (·.name = some value) i → Finds es (.identifier value) i

theorem findIdx?_eq_some_iff_firstAt {q : Element → Bool} (hq : ∀ e, q e = true ↔ p e) :
    es.findIdx? q = some i ↔ FirstAt es p i := by
  rw [List.findIdx?_eq_some_iff_getElem]
  constructor
  · rintro ⟨hlt, hi, hbefore⟩
    refine ⟨⟨es[i], List.getElem?_eq_getElem hlt, (hq _).mp hi⟩, ?_⟩
    intro j e hj he hp
    obtain ⟨hjlt, rfl⟩ := List.getElem?_eq_some_iff.mp he
    exact hbefore j hj ((hq _).mpr hp)
  · rintro ⟨⟨e, he, hp⟩, hbefore⟩
    obtain ⟨hlt, rfl⟩ := List.getElem?_eq_some_iff.mp he
    refine ⟨hlt, (hq _).mpr hp, ?_⟩
    intro j hj hqj
    exact hbefore j _ hj (List.getElem?_eq_getElem (Nat.lt_trans hj hlt)) ((hq _).mp hqj)

namespace Locator

theorem findId?_eq_some_iff {value : String} :
    findId? value es = some i ↔ FirstAt es (·.id = some value) i :=
  findIdx?_eq_some_iff_firstAt fun _ => beq_iff_eq

theorem findId?_eq_none_iff {value : String} :
    findId? value es = none ↔ ∀ e ∈ es, e.id ≠ some value := by
  simp [findId?, List.findIdx?_eq_none_iff]

theorem findName?_eq_some_iff {value : String} :
    findName? value es = some i ↔ FirstAt es (·.name = some value) i :=
  findIdx?_eq_some_iff_firstAt fun _ => beq_iff_eq

theorem findLink?_eq_some_iff {text : String} :
    findLink? text es = some i ↔ FirstAt es (fun e => e.kind = .link ∧ e.text = text) i :=
  findIdx?_eq_some_iff_firstAt fun _ => by rw [Bool.and_eq_true, beq_iff_eq, beq_iff_eq]

theorem find?_eq_some_iff {l : Locator} : l.find? es = some i ↔ l.Finds es i := by
  cases l with
  | id value =>
      rw [find?, findId?_eq_some_iff]
      refine ⟨.id, fun h => ?_⟩
      cases h with
      | id h => exact h
  | name value =>
      rw [find?, findName?_eq_some_iff]
      refine ⟨.name, fun h => ?_⟩
      cases h with
      | name h => exact h
  | link text =>
      rw [find?, findLink?_eq_some_iff]
      refine ⟨.link, fun h => ?_⟩
      cases h with
      | link h => exact h
  | identifier value =>
      rw [find?, Option.or_eq_some_iff, findId?_eq_some_iff, findId?_eq_none_iff,
        findName?_eq_some_iff]
      constructor
      · rintro (h | ⟨hno, h⟩)
        · exact .ident h
        · exact .fallback hno h
      · intro h
        cases h with
        | ident h => exact Or.inl h
        | fallback hno h => exact Or.inr ⟨hno, h⟩

/-- An identifier is an id first of all, wherever on the page it is. -/
theorem exists_finds_id {value : String} (h : ∃ e ∈ es, e.id = some value) :
    ∃ i, FirstAt es (·.id = some value) i ∧ Finds es (.identifier value) i := by
  obtain ⟨e, hin, hid⟩ := h
  cases hf : findId? value es with
  | none => exact absurd hid (findId?_eq_none_iff.mp hf e hin)
  | some i =>
      have hfirst := findId?_eq_some_iff.mp hf
      exact ⟨i, hfirst, .ident hfirst⟩

theorem find?_eq_none_iff {l : Locator} : l.find? es = none ↔ ∀ i, ¬ l.Finds es i := by
  rw [Option.eq_none_iff_forall_ne_some]
  exact forall_congr' fun i => not_congr find?_eq_some_iff

theorem Finds.exists_getElem? {l : Locator} (h : l.Finds es i) : ∃ e, es[i]? = some e := by
  cases h with
  | id h | name h | link h | ident h | fallback _ h =>
      obtain ⟨⟨e, he, -⟩, -⟩ := h
      exact ⟨e, he⟩

end Locator

namespace Session

variable {s : Session} {text : String}

/-! ## What a text means -/

/-- What a text can come to, taken as a locator. -/
inductive Meaning where
  | refused (reason : String)
  | nothing
  | element (i : Nat) (e : Element)

/-- What a text means in a session. -/
inductive Means (s : Session) (text : String) : Meaning → Prop
  | refused {reason : String} : Locator.parse text = .error (.commandFailed "locate" reason) →
      Means s text (.refused reason)
  | nothing {l : Locator} : Locator.parse text = .ok l → (∀ i, ¬ l.Finds s.elements i) →
      Means s text .nothing
  | element {l : Locator} {i : Nat} {e : Element} : Locator.parse text = .ok l →
      l.Finds s.elements i → s.elements[i]? = some e → Means s text (.element i e)

/-- What comes of looking for an element. -/
def Meaning.located (text : String) : Meaning → Except Failure (Nat × Element)
  | refused reason => .error (.commandFailed "locate" reason)
  | nothing => .error (.elementNotFound text)
  | element i e => .ok (i, e)

theorem Meaning.located_inj {m m' : Meaning} (h : m.located text = m'.located text) : m = m' := by
  cases m <;> cases m' <;> cases h <;> rfl

theorem exists_means (s : Session) (text : String) : ∃ m, s.Means text m := by
  cases hp : Locator.parse text with
  | error f =>
      obtain ⟨-, strategy, rfl⟩ := Locator.parse_error hp
      exact ⟨_, .refused hp⟩
  | ok l =>
      cases hf : l.find? s.elements with
      | none => exact ⟨_, .nothing hp (Locator.find?_eq_none_iff.mp hf)⟩
      | some i =>
          have hfinds := Locator.find?_eq_some_iff.mp hf
          obtain ⟨e, he⟩ := hfinds.exists_getElem?
          exact ⟨_, .element hp hfinds he⟩

theorem Means.find_eq {m : Meaning} (h : s.Means text m) :
    s.find text = (m.located text).map (·.1) := by
  unfold find
  cases h with
  | refused hp =>
      rw [hp]
      rfl
  | nothing hp hnone =>
      rw [hp, Except.bind, Locator.find?_eq_none_iff.mpr hnone]
      rfl
  | element hp hfinds he =>
      rw [hp, Except.bind, Locator.find?_eq_some_iff.mpr hfinds]
      rfl

theorem Means.denotes {i : Nat} {e : Element} (h : s.Means text (.element i e)) :
    s.Denotes text i e := by
  cases h with
  | element hp hfinds he => exact ⟨_, hp, Locator.find?_eq_some_iff.mpr hfinds, he⟩

/-- Looking for the element comes to what the text means. -/
theorem Means.locate_eq {m : Meaning} (h : s.Means text m) : s.locate text = m.located text := by
  cases m with
  | refused _ | nothing =>
      rw [locate, h.find_eq]
      rfl
  | element i e => exact locate_ok_iff.mpr h.denotes

theorem Means.unique {m m' : Meaning} (h : s.Means text m) (h' : s.Means text m') : m = m' :=
  Meaning.located_inj (h.locate_eq.symm.trans h'.locate_eq)

end Session

end TableTest
