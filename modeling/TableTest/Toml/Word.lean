/-
`TableTest.Toml.Word` — numbers, dates and truth values

The values that are written without quotes or brackets.  Floating-point numbers and dates are
recognised and checked, but their value is of no interest here; of a number it only matters
whether it is too large.
-/
import TableTest.Toml.Item

namespace TableTest.Toml

def isWordChar (c : Char) : Bool := c.isAlphanum || "+-_.:".toList.contains c

/-! ## Numbers -/

def digitValue? (c : Char) : Option Nat :=
  if c.isDigit then some (c.toNat - '0'.toNat)
  else if 'a' ≤ c && c ≤ 'f' then some (c.toNat - 'a'.toNat + 10)
  else if 'A' ≤ c && c ≤ 'F' then some (c.toNat - 'A'.toNat + 10)
  else none

/-- Reads digits of a base, single underscores between them allowed.  `afterDigit` says
whether a digit stands before. -/
def readDigits (base : Nat) (afterDigit : Bool) (value : Nat) : List Char → Option Nat
  | [] => if afterDigit then some value else none
  | '_' :: cs => if afterDigit then readDigits base false value cs else none
  | c :: cs =>
    match digitValue? c with
    | some d => if d < base then readDigits base true (base * value + d) cs else none
    | none => none

/-- A number in a base; it begins with a digit. -/
def numberIn? (base : Nat) (cs : List Char) : Option Nat := readDigits base false 0 cs

/-- A decimal number; it has no leading zeros. -/
def decimal? (cs : List Char) : Option Nat :=
  match cs with
  | ['0'] => some 0
  | '0' :: _ => none
  | _ => numberIn? 10 cs

/-- A number, with a sign or in another base than ten. -/
def signed? : List Char → Option Int
  | '+' :: cs => (decimal? cs).map Int.ofNat
  | '-' :: cs => (decimal? cs).map fun n => -(Int.ofNat n)
  | '0' :: 'x' :: cs => (numberIn? 16 cs).map Int.ofNat
  | '0' :: 'o' :: cs => (numberIn? 8 cs).map Int.ofNat
  | '0' :: 'b' :: cs => (numberIn? 2 cs).map Int.ofNat
  | cs => (decimal? cs).map Int.ofNat

/-- A whole number that fits into 64 bits with a sign. -/
def integer? (cs : List Char) : Option Int :=
  (signed? cs).filter fun i => -(Int.pow 2 63) ≤ i && i < Int.pow 2 63

/-- The characters up to one that `stop` holds of, and those from it on. -/
def cutAt (stop : Char → Bool) (cs : List Char) : List Char × List Char :=
  (cs.takeWhile (!stop ·), cs.dropWhile (!stop ·))

def dropSign : List Char → List Char
  | '+' :: cs | '-' :: cs => cs
  | cs => cs

/-- A decimal number without a sign: `digits * 10 ^ exponent`. -/
structure Magnitude where
  digits : Nat
  exponent : Int
deriving DecidableEq, Repr

namespace Magnitude

/-- The least magnitude that is infinite when rounded to a floating-point number of 64 bits:
half a step above the greatest finite one, which is `2 ^ 1024 - 2 ^ 971`. -/
def overflowBound : Nat := Nat.pow 2 1024 - Nat.pow 2 970

/-- How many digits stand before the point, when the first digit is not zero. -/
def order (m : Magnitude) : Int := (Nat.toDigits 10 m.digits).length + m.exponent

/-- Whether the magnitude is too large for a floating-point number of 64 bits.  The bound has
309 digits, so no other magnitudes than those of as many digits need be compared. -/
def overflows (m : Magnitude) : Bool :=
  m.digits != 0 && (309 < m.order ||
    (m.order == 309 &&
      overflowBound * Nat.pow 10 (-m.exponent).toNat ≤
        m.digits * Nat.pow 10 m.exponent.toNat))

end Magnitude

/-- The exponent of a number, which begins with its letter; it may be left out. -/
def exponent? : List Char → Option Int
  | [] => some 0
  | _ :: '-' :: cs => (numberIn? 10 cs).map fun n => -(Int.ofNat n)
  | _ :: cs => (numberIn? 10 (dropSign cs)).map Int.ofNat

/-- The value and the number of the digits after the point, which they begin with; they may
be left out. -/
def fraction? : List Char → Option (Nat × Nat)
  | [] => some (0, 0)
  | _ :: cs => (numberIn? 10 cs).map (·, cs.countP (·.isDigit))

def magnitude? (cs : List Char) : Option Magnitude := do
  let (mantissa, power) := cutAt (fun c => c == 'e' || c == 'E') cs
  let (whole, rest) := cutAt (· == '.') mantissa
  guard !(rest.isEmpty && power.isEmpty)
  let (fraction, places) ← fraction? rest
  return ⟨(← decimal? whole) * Nat.pow 10 places + fraction, (← exponent? power) - places⟩

/-- Whether the characters are a floating-point number.  One that is too large is none, except
that below zero it counts as infinite. -/
def isFloat (cs : List Char) : Bool :=
  let unsigned := dropSign cs
  unsigned == "inf".toList || unsigned == "nan".toList ||
    (magnitude? unsigned).any fun m => cs.head? == some '-' || !m.overflows

/-! ## Dates and times -/

/-- A number of exactly `n` digits between two bounds. -/
def fixed? (n low high : Nat) (cs : List Char) : Option Nat :=
  if cs.length == n && cs.all (·.isDigit) then
    (numberIn? 10 cs).filter fun v => low ≤ v && v ≤ high
  else none

def daysIn (year month : Nat) : Nat :=
  if month == 2 then
    if year % 4 == 0 && (year % 100 != 0 || year % 400 == 0) then 29 else 28
  else if [4, 6, 9, 11].contains month then 30
  else 31

def isDate : List Char → Bool
  | [y₁, y₂, y₃, y₄, '-', m₁, m₂, '-', d₁, d₂] =>
    match fixed? 4 0 9999 [y₁, y₂, y₃, y₄], fixed? 2 1 12 [m₁, m₂] with
    | some year, some month => (fixed? 2 1 (daysIn year month) [d₁, d₂]).isSome
    | _, _ => false
  | _ => false

def isHourMinute : List Char → Bool
  | [h₁, h₂, ':', m₁, m₂] => (fixed? 2 0 23 [h₁, h₂]).isSome && (fixed? 2 0 59 [m₁, m₂]).isSome
  | _ => false

/-- Whether the characters are the fraction of a second, with its point, or nothing. -/
def isFraction : List Char → Bool
  | [] => true
  | '.' :: cs => !cs.isEmpty && cs.all (·.isDigit)
  | _ => false

def isTime (cs : List Char) : Bool :=
  isHourMinute (cs.take 5) &&
    match cs.drop 5 with
    | ':' :: s₁ :: s₂ :: fraction => (fixed? 2 0 60 [s₁, s₂]).isSome && isFraction fraction
    | _ => false

/-- Whether the characters are the offset of a time zone, or nothing. -/
def isOffset : List Char → Bool
  | [] | ['Z'] | ['z'] => true
  | '+' :: cs | '-' :: cs => isHourMinute cs
  | _ => false

/-- Whether the characters are a time with or without the offset of a time zone. -/
def isZonedTime (cs : List Char) : Bool :=
  let (time, offset) := cutAt (fun c => "Zz+-".toList.contains c) cs
  isTime time && isOffset offset

/-- Whether the characters are a date, a time, or both with a T or a blank between. -/
def isDatetime (cs : List Char) : Bool :=
  isTime cs || isDate cs ||
    (isDate (cs.take 10) &&
      match cs.drop 10 with
      | c :: time => (c == 'T' || c == 't' || c == ' ') && isZonedTime time
      | [] => false)

/-! ## Words -/

def wordValue (cs : List Char) : Except Fault Item :=
  if cs == "true".toList then .ok (.flag true)
  else if cs == "false".toList then .ok (.flag false)
  else
    match integer? cs with
    | some i => .ok (.integer i)
    | none =>
      if isFloat cs then .ok .float
      else if isDatetime cs then .ok .datetime
      else .error (.badNumber (String.ofList cs))

/-- Splits off the word at the start.  A blank between a date and a time belongs to it. -/
def takeWord (cs : List Char) : List Char × List Char :=
  let (word, rest) := cutAt (!isWordChar ·) cs
  match rest with
  | ' ' :: c :: after =>
    if isDate word && c.isDigit then
      let (time, rest) := cutAt (!isWordChar ·) (c :: after)
      (word ++ ' ' :: time, rest)
    else (word, rest)
  | _ => (word, rest)

end TableTest.Toml
