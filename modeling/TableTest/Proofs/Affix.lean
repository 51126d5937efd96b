/-
`TableTest.Proofs.Affix` — what a text begins with and ends in, and cutting it at a character

A text without what it begins with, or without what it ends in, is the rest of it.  What begins a
text that is put together of two begins the first of them, or reaches into the second.
A text that is cut at the first place where a character stands is put together again from its two
sides, and the character does not stand in the first of them.  Cut at the last place, it does not
stand in the second.
-/
import Mathlib.Data.List.Basic
import TableTest.Text.Affix

namespace TableTest.Text

variable {c : Char}

/-! ## At the front -/

theorem startsWith_iff {head s : String} : startsWith head s = true ↔ ∃ rest, s = head ++ rest := by
  rw [startsWith, List.isPrefixOf_iff_prefix]
  constructor
  · rintro ⟨cs, hcs⟩
    refine ⟨String.ofList cs, ?_⟩
    rw [← String.toList_inj, String.toList_append, String.toList_ofList, hcs]
  · rintro ⟨rest, rfl⟩
    rw [String.toList_append]
    exact List.prefix_append _ _

theorem startsWith_eq_false {head s : String} (h : ¬ ∃ rest, s = head ++ rest) :
    startsWith head s = false :=
  Bool.eq_false_iff.mpr (mt startsWith_iff.mp h)

theorem startsWith_append (head rest : String) : startsWith head (head ++ rest) = true :=
  startsWith_iff.mpr ⟨rest, rfl⟩

/-- A text that begins a longer one stands in front of that, or reaches into the rest of it. -/
theorem startsWith_of_append {head s t : String} (h : startsWith head (s ++ t) = true) :
    startsWith head s = true ∨ ∃ c ∈ head.toList, t.toList.head? = some c := by
  rw [startsWith, String.toList_append, List.isPrefixOf_iff_prefix] at h
  rw [startsWith, List.isPrefixOf_iff_prefix]
  rcases List.prefix_or_prefix_of_prefix h (List.prefix_append s.toList t.toList) with hs | hs
  · exact Or.inl hs
  obtain ⟨more, hmore⟩ := hs
  cases more with
  | nil =>
      rw [List.append_nil] at hmore
      exact Or.inl (hmore ▸ List.prefix_rfl)
  | cons c more =>
      rw [← hmore, List.prefix_append_right_inj] at h
      obtain ⟨rest, hrest⟩ := h
      exact Or.inr ⟨c, by simp [← hmore], by simp [← hrest]⟩

theorem startsWith_append_eq_false {head s t : String} (hs : startsWith head s = false)
    (ht : ∀ c ∈ head.toList, t.toList.head? ≠ some c) : startsWith head (s ++ t) = false := by
  refine Bool.eq_false_iff.mpr ?_
  intro h
  rcases startsWith_of_append h with h | ⟨c, hc, hhead⟩
  · rw [hs] at h
    cases h
  · exact ht c hc hhead

theorem after?_eq_some_iff {head s rest : String} :
    after? head s = some rest ↔ s = head ++ rest := by
  rw [after?, Option.map_eq_some_iff, ← String.toList_inj, String.toList_append]
  simp only [List.isPrefixOf?_eq_some_iff_append_eq]
  constructor
  · rintro ⟨cs, hcs, rfl⟩
    rw [String.toList_ofList, hcs]
  · intro h
    exact ⟨rest.toList, h.symm, String.ofList_toList⟩

/-! ## At the end -/

theorem before?_eq_some_iff {tail s stem : String} :
    before? tail s = some stem ↔ s = stem ++ tail := by
  rw [before?, Option.map_eq_some_iff, ← String.toList_inj, String.toList_append]
  simp only [List.isSuffixOf?_eq_some_iff_append_eq]
  constructor
  · rintro ⟨cs, hcs, rfl⟩
    rw [String.toList_ofList, hcs]
  · intro h
    exact ⟨stem.toList, h.symm, String.ofList_toList⟩

/-! ## At the first place -/

theorem cutFirst?_eq_some_iff {cs l r : List Char} :
    cutFirst? c cs = some (l, r) ↔ cs = l ++ c :: r ∧ c ∉ l := by
  induction cs generalizing l with
  | nil => simp [cutFirst?]
  | cons d ds ih =>
      rw [cutFirst?]
      by_cases hd : d = c
      · subst hd
        cases l with
        | nil => simp
        | cons e l => simp +contextual
      rw [if_neg hd]
      constructor
      · intro h
        obtain ⟨⟨l', r'⟩, hcut, heq⟩ := Option.map_eq_some_iff.mp h
        cases heq
        obtain ⟨rfl, hl⟩ := ih.mp hcut
        exact ⟨rfl, by simp [hl, Ne.symm hd]⟩
      · rintro ⟨heq, hl⟩
        cases l with
        | nil => exact absurd (List.cons.inj heq).1 hd
        | cons e l =>
            obtain ⟨rfl, hds⟩ := List.cons.inj heq
            rw [ih.mpr ⟨hds, fun hin => hl (List.mem_cons_of_mem _ hin)⟩]
            rfl

theorem splitFirst?_eq_some_iff {s l r : String} :
    splitFirst? c s = some (l, r) ↔ s = l ++ String.singleton c ++ r ∧ c ∉ l.toList := by
  rw [splitFirst?, Option.map_eq_some_iff, ← String.toList_inj, String.toList_append,
    String.toList_append, String.toList_singleton, List.append_assoc, List.singleton_append]
  constructor
  · rintro ⟨⟨cs, ds⟩, hcut, heq⟩
    cases heq
    rw [String.toList_ofList, String.toList_ofList]
    exact cutFirst?_eq_some_iff.mp hcut
  · intro h
    exact ⟨(l.toList, r.toList), cutFirst?_eq_some_iff.mpr h, by simp⟩

/-! ## At the last place -/

theorem cutLast?_eq_some_iff {cs l r : List Char} :
    cutLast? c cs = some (l, r) ↔ cs = l ++ c :: r ∧ c ∉ r := by
  rw [cutLast?, Option.map_eq_some_iff]
  constructor
  · rintro ⟨⟨back, front⟩, hcut, heq⟩
    cases heq
    obtain ⟨hcs, hback⟩ := cutFirst?_eq_some_iff.mp hcut
    refine ⟨?_, by simpa using hback⟩
    rw [← List.reverse_inj, hcs]
    simp
  · rintro ⟨rfl, hr⟩
    refine ⟨(r.reverse, l.reverse), cutFirst?_eq_some_iff.mpr ⟨by simp, by simpa using hr⟩, ?_⟩
    simp

theorem splitLast?_eq_some_iff {s l r : String} :
    splitLast? c s = some (l, r) ↔ s = l ++ String.singleton c ++ r ∧ c ∉ r.toList := by
  rw [splitLast?, Option.map_eq_some_iff, ← String.toList_inj, String.toList_append,
    String.toList_append, String.toList_singleton, List.append_assoc, List.singleton_append]
  constructor
  · rintro ⟨⟨cs, ds⟩, hcut, heq⟩
    cases heq
    rw [String.toList_ofList, String.toList_ofList]
    exact cutLast?_eq_some_iff.mp hcut
  · intro h
    exact ⟨(l.toList, r.toList), cutLast?_eq_some_iff.mpr h, by simp⟩

end TableTest.Text
