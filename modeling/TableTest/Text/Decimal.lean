/-
`TableTest.Text.Decimal` — unsigned whole numbers in text

A numeral is a non-empty run of the digits 0 to 9, with at most one plus sign before it.
-/
namespace TableTest.Text

/-- The number that a run of digits denotes, `acc` standing for the digits already read. -/
def digitsValue? (acc : Nat) : List Char → Option Nat
  | [] => some acc
  | c :: cs => if c.isDigit then digitsValue? (10 * acc + (c.toNat - '0'.toNat)) cs else none

/-- The number that a non-empty run of digits denotes. -/
def digits? : List Char → Option Nat
  | [] => none
  | cs => digitsValue? 0 cs

/-- The number that a numeral denotes. -/
def numeral? : List Char → Option Nat
  | '+' :: cs => digits? cs
  | cs => digits? cs

/-- The 64-bit number that a text denotes; none for a number that does not fit. -/
def word? (s : String) : Option UInt64 :=
  (numeral? s.toList).bind fun n => if n < UInt64.size then some (UInt64.ofNat n) else none

end TableTest.Text
