/-
`TableTest.Proofs.ByteOrder` — texts are ordered as their bytes are

Texts are compared character by character, by code point.  Comparing their UTF-8 bytes comes to the
same, since the bytes of two characters differ at some place, and at the first such place the
smaller character has the smaller byte; what follows it in either text does not matter then.
-/

namespace TableTest.Text

/-- The bytes of a text. -/
def bytes (s : String) : List UInt8 := s.toUTF8.data.toList

theorem bytes_eq (s : String) : bytes s = s.toList.flatMap String.utf8EncodeChar := by
  rw [bytes, String.toUTF8_eq_toByteArray, ← String.utf8Encode_toList, List.utf8Encode]
  exact List.toList_data_toByteArray

/-! ## Lists of bytes that differ -/

/-- At the first place where the lists differ, the first one has the smaller byte. -/
inductive Below : List UInt8 → List UInt8 → Prop
  | here {a b : UInt8} {x y : List UInt8} : a < b → Below (a :: x) (b :: y)
  | there {a : UInt8} {x y : List UInt8} : Below x y → Below (a :: x) (a :: y)

theorem Below.append {x y : List UInt8} (h : Below x y) (u v : List UInt8) : x ++ u < y ++ v := by
  induction h with
  | here hlt => exact List.Lex.rel hlt
  | there _ ih => exact List.Lex.cons ih

theorem below_ofNat {a b : Nat} {x y : List UInt8} (hb : b < 256)
    (h : a < b ∨ a = b ∧ Below x y) : Below (UInt8.ofNat a :: x) (UInt8.ofNat b :: y) := by
  rcases h with hlt | ⟨rfl, hxy⟩
  · refine .here ?_
    rw [UInt8.lt_iff_toNat_lt, UInt8.toNat_ofNat', UInt8.toNat_ofNat']
    omega
  · exact .there hxy

/-! ## The bytes of a character -/

section

variable {v w : Nat}

/-- The last byte decides between characters that agree in all bits before it. -/
theorem below_last (h : v < w) (heq : v / 64 = w / 64) :
    Below [UInt8.ofNat (v % 64 + 128)] [UInt8.ofNat (w % 64 + 128)] :=
  below_ofNat (by omega) (Or.inl (by omega))

theorem below_lastTwo (h : v < w) (heq : v / 4096 = w / 4096) :
    Below [UInt8.ofNat (v / 64 % 64 + 128), UInt8.ofNat (v % 64 + 128)]
      [UInt8.ofNat (w / 64 % 64 + 128), UInt8.ofNat (w % 64 + 128)] := by
  refine below_ofNat (by omega) ?_
  by_cases hq : v / 64 = w / 64
  · exact Or.inr ⟨by rw [hq], below_last h hq⟩
  · exact Or.inl (by omega)

theorem below_lastThree (h : v < w) (heq : v / 262144 = w / 262144) :
    Below [UInt8.ofNat (v / 4096 % 64 + 128), UInt8.ofNat (v / 64 % 64 + 128),
        UInt8.ofNat (v % 64 + 128)]
      [UInt8.ofNat (w / 4096 % 64 + 128), UInt8.ofNat (w / 64 % 64 + 128),
        UInt8.ofNat (w % 64 + 128)] := by
  refine below_ofNat (by omega) ?_
  by_cases hq : v / 4096 = w / 4096
  · exact Or.inr ⟨by rw [hq], below_lastTwo h hq⟩
  · exact Or.inl (by omega)

end

theorem below_of_lt {c d : Char} (h : c < d) :
    Below (String.utf8EncodeChar c) (String.utf8EncodeChar d) := by
  have hlt : c.val.toNat < d.val.toNat := h
  have hd : d.val.toNat < 0xd800 ∨ 0xdfff < d.val.toNat ∧ d.val.toNat < 0x110000 := d.valid
  unfold String.utf8EncodeChar
  generalize c.val.toNat = v at hlt ⊢
  generalize d.val.toNat = w at hlt hd ⊢
  dsimp only
  split
  · -- a single byte is smaller than the first of several
    split
    · exact below_ofNat (by omega) (Or.inl hlt)
    split
    · exact below_ofNat (by omega) (Or.inl (by omega))
    split <;> exact below_ofNat (by omega) (Or.inl (by omega))
  split
  · rw [if_neg (show ¬ w ≤ 0x7f by omega)]
    split
    · refine below_ofNat (by omega) ?_
      by_cases hq : v / 64 = w / 64
      · exact Or.inr ⟨by rw [hq], below_last hlt hq⟩
      · exact Or.inl (by omega)
    split <;> exact below_ofNat (by omega) (Or.inl (by omega))
  rw [if_neg (show ¬ w ≤ 0x7f by omega), if_neg (show ¬ w ≤ 0x7ff by omega)]
  split
  · split
    · refine below_ofNat (by omega) ?_
      by_cases hq : v / 4096 = w / 4096
      · exact Or.inr ⟨by rw [hq], below_lastTwo hlt hq⟩
      · exact Or.inl (by omega)
    · exact below_ofNat (by omega) (Or.inl (by omega))
  · rw [if_neg (show ¬ w ≤ 0xffff by omega)]
    refine below_ofNat (by omega) ?_
    by_cases hq : v / 262144 = w / 262144
    · exact Or.inr ⟨by rw [hq], below_lastThree hlt hq⟩
    · exact Or.inl (by omega)

/-! ## Texts -/

theorem encode_lt_encode {l m : List Char} (h : l < m) :
    l.flatMap String.utf8EncodeChar < m.flatMap String.utf8EncodeChar := by
  have h' : List.Lex (· < ·) l m := h
  induction h' with
  | @nil c m =>
      rw [List.flatMap_cons]
      cases hc : String.utf8EncodeChar c with
      | nil => exact absurd hc String.utf8EncodeChar_ne_nil
      | cons b bs => exact List.nil_lt_cons _ _
  | @cons c l m hlm ih =>
      rw [List.flatMap_cons, List.flatMap_cons]
      exact List.append_left_lt (ih hlm)
  | @rel c l d m hcd =>
      rw [List.flatMap_cons, List.flatMap_cons]
      exact (below_of_lt hcd).append _ _

/-- Of two texts the one that comes first has the bytes that come first. -/
theorem bytes_lt_iff {s t : String} : bytes s < bytes t ↔ s < t := by
  have hmono {s t : String} (h : s < t) : bytes s < bytes t := by
    rw [bytes_eq, bytes_eq]
    exact encode_lt_encode (String.lt_iff.mp h)
  constructor
  · intro h
    rcases Std.lt_trichotomy s t with hst | rfl | hts
    · exact hst
    · exact absurd h (List.lt_irrefl _)
    · exact absurd h (List.lt_asymm (hmono hts))
  · exact hmono

end TableTest.Text
