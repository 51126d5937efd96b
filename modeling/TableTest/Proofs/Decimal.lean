/-
`TableTest.Proofs.Decimal` — whole numbers as they are written

The numerals that are read are the non-empty runs of digits, with or without a plus sign before
them, and each stands for the number that its digits denote in base ten.  There is no bound: a
numeral may have leading zeros and any length.  What is written for a number reads as that number.
There is no white space in it, so cutting that off first makes no difference.
-/
import TableTest.Text.Blank
import TableTest.Text.Decimal

namespace TableTest.Text

variable {cs : List Char} {n acc : Nat}

/-- A non-empty run of digits, which denotes `n`. -/
structure Digits (cs : List Char) (n : Nat) : Prop where
  ne_nil : cs ≠ []
  isDigit : ∀ c ∈ cs, c.isDigit = true
  value : Nat.ofDigitChars 10 cs 0 = n

/-- A run of digits that denotes `n`, or one after a plus sign. -/
inductive Numeral : List Char → Nat → Prop
  | unsigned {cs : List Char} {n : Nat} : Digits cs n → Numeral cs n
  | plus {cs : List Char} {n : Nat} : Digits cs n → Numeral ('+' :: cs) n

/-! ## Reading -/

theorem digitsValue?_eq_some_iff :
    digitsValue? acc cs = some n ↔
      (∀ c ∈ cs, c.isDigit = true) ∧ Nat.ofDigitChars 10 cs acc = n := by
  induction cs generalizing acc with
  | nil => simp [digitsValue?]
  | cons c cs ih =>
      rw [digitsValue?]
      by_cases hc : c.isDigit = true
      · rw [if_pos hc, ih, Nat.ofDigitChars_cons]
        simp [hc]
      · rw [if_neg hc]
        simp [hc]

theorem digits?_eq_some_iff : digits? cs = some n ↔ Digits cs n := by
  rcases cs with _ | ⟨c, cs⟩
  · constructor
    · intro h
      cases h
    · intro h
      exact absurd rfl h.ne_nil
  · show digitsValue? 0 (c :: cs) = some n ↔ _
    rw [digitsValue?_eq_some_iff]
    constructor
    · rintro ⟨hdigits, hvalue⟩
      exact ⟨List.cons_ne_nil c cs, hdigits, hvalue⟩
    · intro h
      exact ⟨h.isDigit, h.value⟩

theorem numeral?_eq_some_iff : numeral? cs = some n ↔ Numeral cs n := by
  unfold numeral?
  split
  · next ds =>
    rw [digits?_eq_some_iff]
    constructor
    · exact .plus
    · rintro (hd | hd)
      -- a plus sign is no digit
      · exact absurd (hd.isDigit '+' List.mem_cons_self) (by decide)
      · exact hd
  · next hplus =>
    rw [digits?_eq_some_iff]
    constructor
    · exact .unsigned
    · rintro (hd | hd)
      · exact hd
      · exact absurd rfl (hplus _)

/-! ## Writing -/

theorem digits_toString (n : Nat) : Digits (toString n).toList n := by
  rw [Nat.toString_eq_repr, Nat.toList_repr]
  exact ⟨Nat.toDigits_ne_nil, fun c hc => Nat.isDigit_of_mem_toDigits (by decide) (by decide) hc,
    Nat.ofDigitChars_ten_toDigits⟩

theorem numeral_toString (n : Nat) : Numeral (toString n).toList n :=
  .unsigned (digits_toString n)

theorem word?_toString (n : UInt64) : word? (toString n.toNat) = some n := by
  rw [word?, numeral?_eq_some_iff.mpr (numeral_toString n.toNat), Option.bind_some,
    if_pos n.toNat_lt_size, UInt64.ofNat_toNat]

/-! ## White space -/

theorem isBlank_of_isDigit {c : Char} (h : c.isDigit = true) : isBlank c = false := by
  have hdigit : 48 ≤ c.toNat ∧ c.toNat ≤ 57 := by
    simpa [Char.isDigit, UInt32.le_iff_toNat_le] using h
  simp only [isBlank, blankRanges, List.any_cons, List.any_nil, Bool.or_eq_false_iff,
    Bool.and_eq_false_iff, decide_eq_false_iff_not, and_true]
  omega

theorem dropWhile_isBlank (h : ∀ c ∈ cs, isBlank c = false) : cs.dropWhile isBlank = cs := by
  cases cs with
  | nil => rfl
  | cons c cs => rw [List.dropWhile_cons_of_neg (by simp [h c])]

theorem trim_of_no_blank {s : String} (h : ∀ c ∈ s.toList, isBlank c = false) : trim s = s := by
  have hback : ∀ c ∈ s.toList.reverse, isBlank c = false :=
    fun c hc => h c (List.mem_reverse.mp hc)
  rw [trim, dropWhile_isBlank h, dropWhile_isBlank hback, List.reverse_reverse,
    String.ofList_toList]

theorem trim_toString (n : Nat) : trim (toString n) = toString n :=
  trim_of_no_blank fun c hc => isBlank_of_isDigit ((digits_toString n).isDigit c hc)

end TableTest.Text
