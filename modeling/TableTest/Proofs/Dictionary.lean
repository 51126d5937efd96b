/-
`TableTest.Proofs.Dictionary` — looking up and listing what was put in

A dictionary made by insertions lists its names in strictly ascending order, and a look-up
finds what was last put under a name.
-/
import TableTest.Dictionary

namespace TableTest.Dictionary

variable {α : Type}

/-! ## Looking up -/

theorem lookup_cons (key n : String) (w : α) (rest : List (String × α)) :
    ((n, w) :: rest).lookup key = if key = n then some w else rest.lookup key := by
  by_cases h : key = n
  · rw [if_pos h, h, List.lookup_cons_self]
  · rw [if_neg h, List.lookup_cons, beq_eq_false_iff_ne.mpr h]

theorem lookup_place (name key : String) (v : α) : ∀ l : List (String × α),
    (place name v l).lookup key = if key = name then some v else l.lookup key
  | [] => lookup_cons key name v []
  | (n, w) :: rest => by
      unfold place
      split
      · next hn =>
        subst hn
        simp only [lookup_cons]
        split <;> rfl
      · next hn =>
        split
        · rw [lookup_cons]
        · -- the new entry goes further back, so a key found here is not the new one
          rw [lookup_cons, lookup_cons, lookup_place name key v rest]
          by_cases hk : key = n
          · rw [if_pos hk, if_neg (hk ▸ Ne.symm hn), if_pos hk]
          · rw [if_neg hk, if_neg hk]

@[simp] theorem get?_insert (name key : String) (v : α) (d : Dictionary α) :
    (d.insert name v).get? key = if key = name then some v else d.get? key :=
  lookup_place name key v d.entries

theorem lookup_erase (name key : String) : ∀ l : List (String × α),
    (l.filter (·.1 != name)).lookup key = if key = name then none else l.lookup key
  | [] => by simp
  | (n, w) :: rest => by
      have ih := lookup_erase name key rest
      by_cases hn : n = name
      · subst hn
        rw [List.filter_cons_of_neg (by simp), ih, lookup_cons]
        split <;> rfl
      · rw [List.filter_cons_of_pos (by simpa using hn), lookup_cons, lookup_cons, ih]
        by_cases hk : key = n
        · rw [if_pos hk, if_neg (hk ▸ hn), if_pos hk]
        · rw [if_neg hk, if_neg hk]

@[simp] theorem get?_erase (name key : String) (d : Dictionary α) :
    (d.erase name).get? key = if key = name then none else d.get? key :=
  lookup_erase name key d.entries

theorem get?_isSome_iff {key : String} {d : Dictionary α} :
    (d.get? key).isSome = true ↔ key ∈ d.names := by
  unfold get? names
  induction d.entries with
  | nil => simp
  | cons entry rest ih =>
      rw [lookup_cons, List.map_cons, List.mem_cons]
      split
      · next h => simp [h]
      · next h => simp [h, ih]

theorem contains_iff {key : String} {d : Dictionary α} :
    d.contains key = true ↔ key ∈ d.names := get?_isSome_iff

/-! ## The order of the names -/

/-- The names stand in strictly ascending order, so none stands twice. -/
def Ascending (d : Dictionary α) : Prop := d.names.Pairwise (· < ·)

theorem perm_place {name : String} (v : α) : ∀ {l : List (String × α)}, name ∉ l.map (·.1) →
    (place name v l).Perm ((name, v) :: l)
  | [], _ => .refl _
  | (n, w) :: rest, h => by
      rw [List.map_cons, List.mem_cons, not_or] at h
      unfold place
      rw [if_neg h.1]
      split
      · exact .refl _
      · exact ((perm_place v h.2).cons _).trans (.swap _ _ _)

theorem mem_names_place {name key : String} {v : α} : ∀ {l : List (String × α)},
    key ∈ (place name v l).map (·.1) → key = name ∨ key ∈ l.map (·.1)
  | [], h => Or.inl (List.mem_singleton.mp h)
  | (n, w) :: rest, h => by
      unfold place at h
      split at h
      · next hn =>
        subst hn
        exact Or.inr h
      · split at h
        · exact List.mem_cons.mp h
        · rcases List.mem_cons.mp h with h | h
          · exact Or.inr (List.mem_cons.mpr (Or.inl h))
          · exact (mem_names_place h).imp_right (List.mem_cons_of_mem _)

theorem pairwise_place {name : String} (v : α) : ∀ {l : List (String × α)},
    (l.map (·.1)).Pairwise (· < ·) → ((place name v l).map (·.1)).Pairwise (· < ·)
  | [], _ => List.pairwise_singleton _ _
  | (n, w) :: rest, h => by
      obtain ⟨hn, hrest⟩ := List.pairwise_cons.mp h
      unfold place
      split
      · next heq =>
        subst heq
        exact h
      · next hne =>
        split
        · next hlt =>
          refine List.pairwise_cons.mpr ⟨fun key hkey => ?_, h⟩
          rcases List.mem_cons.mp hkey with rfl | hkey
          · exact hlt
          · exact String.lt_trans hlt (hn key hkey)
        · next hge =>
          have hlt : n < name :=
            (Std.lt_trichotomy n name).resolve_right fun hor => hor.elim (hne ·.symm) hge
          refine List.pairwise_cons.mpr ⟨fun key hkey => ?_, pairwise_place v hrest⟩
          rcases mem_names_place hkey with rfl | hkey
          · exact hlt
          · exact hn key hkey

theorem ascending_empty : Ascending ({} : Dictionary α) := List.Pairwise.nil

theorem Ascending.insert {d : Dictionary α} (h : d.Ascending) (name : String) (v : α) :
    (d.insert name v).Ascending := pairwise_place v h

theorem Ascending.erase {d : Dictionary α} (h : d.Ascending) (name : String) :
    (d.erase name).Ascending := by
  have hsub : (d.entries.filter (·.1 != name)).Sublist d.entries := List.filter_sublist
  exact List.Pairwise.sublist (hsub.map _) h

theorem lookup_eq_some_iff {key : String} {v : α} : ∀ {l : List (String × α)},
    (l.map (·.1)).Pairwise (· < ·) → (l.lookup key = some v ↔ (key, v) ∈ l)
  | [], _ => by simp
  | (n, w) :: rest, h => by
      obtain ⟨hn, hrest⟩ := List.pairwise_cons.mp h
      rw [lookup_cons, List.mem_cons, Prod.mk.injEq]
      split
      · next hk =>
        -- the names behind it are greater, so the key does not stand there again
        have hno : (key, v) ∉ rest := fun hin =>
          String.lt_irrefl key (hk ▸ hn key (List.mem_map_of_mem hin))
        simp [hk, hk ▸ hno, eq_comm]
      · next hk => simp [hk, lookup_eq_some_iff hrest]

theorem Ascending.get?_eq_some_iff {d : Dictionary α} (h : d.Ascending) {key : String} {v : α} :
    d.get? key = some v ↔ (key, v) ∈ d.entries := lookup_eq_some_iff h

theorem perm_insert {name : String} {d : Dictionary α} (v : α) (h : name ∉ d.names) :
    (d.insert name v).entries.Perm ((name, v) :: d.entries) := perm_place v h

end TableTest.Dictionary
