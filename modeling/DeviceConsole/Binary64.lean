import DeviceConsole.Text.Decimal

/-!
# Binary64 numbers

Thresholds are typed as decimal numbers and submitted as binary64 words.  A word is kept
as its bits; a decimal is rounded to the nearest word, a tie going to the word with the
even significand, in exact integer arithmetic.

Main results:

- Theorem {lit}`isFinite_iff`: a word is finite when its exponent field is not all ones.
- Definition {lit}`finite?`: the finite word nearest to a decimal text.
-/

namespace DeviceConsole

/-- A binary64 word. -/
structure Binary64 where
  bits : UInt64
deriving DecidableEq, Repr

namespace Binary64

/-! ## Fields of a word -/

/-- The exponent field. -/
def exponentField (word : Binary64) : Nat :=
  word.bits.toNat / Nat.pow 2 52 % Nat.pow 2 11

/-- Whether the word is neither an infinity nor a NaN. -/
def isFinite (word : Binary64) : Bool :=
  word.exponentField != 2047

/-- A word is finite when its exponent field is not all ones. -/
theorem isFinite_iff (word : Binary64) : word.isFinite ↔ word.exponentField ≠ 2047 := by
  simp [isFinite]

/-- The magnitude bits of positive infinity. -/
def infinityBits : Nat :=
  2047 * Nat.pow 2 52

/-- The word with the given sign and magnitude bits. -/
def ofMagnitude (negative : Bool) (magnitude : Nat) : Binary64 :=
  ⟨UInt64.ofNat (magnitude + if negative then Nat.pow 2 63 else 0)⟩

/-! ## Rounding -/

/-- The quotient rounded to the nearest integer, a tie going to the even one. -/
def roundQuotient (numerator denominator : Nat) : Nat :=
  let quotient := numerator / denominator
  let twice := 2 * (numerator % denominator)
  if twice > denominator ∨ (twice = denominator ∧ quotient % 2 = 1) then quotient + 1
  else quotient

/-- The exponent {lit}`e` with {lit}`2 ^ e ≤ numerator / denominator < 2 ^ (e + 1)`, for
positive arguments. -/
def binaryExponent (numerator denominator : Nat) : Int :=
  let guess : Int := (Nat.log2 numerator : Int) - Nat.log2 denominator
  let reached : Bool :=
    if 0 ≤ guess then denominator * Nat.pow 2 guess.toNat ≤ numerator
    else denominator ≤ numerator * Nat.pow 2 (-guess).toNat
  if reached then guess else guess - 1

/-- The magnitude bits nearest to a quotient; too large a quotient gives infinity. -/
def nearestMagnitude (numerator denominator : Nat) : Nat :=
  if numerator = 0 then
    0
  else
    let exponent := max (binaryExponent numerator denominator) (-1022)
    let unit := exponent - 52
    let significand :=
      if 0 ≤ unit then roundQuotient numerator (denominator * Nat.pow 2 unit.toNat)
      else roundQuotient (numerator * Nat.pow 2 (-unit).toNat) denominator
    min infinityBits ((exponent + 1022).toNat * Nat.pow 2 52 + significand)

/-! ## Decimal texts -/

/-- A decimal number: {lit}`significand * 10 ^ exponent`, with a sign. -/
structure Scientific where
  negative : Bool
  significand : Nat
  exponent : Int

/-- The magnitude bits nearest to {lit}`significand * 10 ^ exponent`.  Exponents far outside
the range of the format are decided without computing the power. -/
def nearestDecimal (significand : Nat) (exponent : Int) : Nat :=
  let size : Int := (DeviceConsole.Decimal.digits significand).length
  if significand = 0 then 0
  else if exponent + size > 400 then infinityBits
  else if exponent + size < -400 then 0
  else if 0 ≤ exponent then nearestMagnitude (significand * Nat.pow 10 exponent.toNat) 1
  else nearestMagnitude significand (Nat.pow 10 (-exponent).toNat)

/-- The word nearest to a decimal number. -/
def ofDecimal (decimal : Scientific) : Binary64 :=
  ofMagnitude decimal.negative (nearestDecimal decimal.significand decimal.exponent)

/-- Splits a sign off the front of a text; without one the text is positive. -/
def splitSign : List Char → Bool × List Char
  | '-' :: rest => (true, rest)
  | '+' :: rest => (false, rest)
  | text => (false, text)

/-- The exponent part of a decimal: nothing, or an {lit}`e` and a signed numeral. -/
def exponentPart? : List Char → Option Int
  | [] => some 0
  | c :: rest =>
      if c = 'e' ∨ c = 'E' then
        let (negative, run) := splitSign rest
        (DeviceConsole.Decimal.natural? run).map fun n =>
          if negative then -(n : Int) else (n : Int)
      else
        none

/-- A decimal text: an optional sign, digits with at most one point among them and at least
one digit, and an optional exponent. -/
def decimal? (text : List Char) : Option Scientific :=
  let (negative, unsigned) := splitSign text
  let whole := unsigned.takeWhile Char.isDigit
  let afterWhole := unsigned.dropWhile Char.isDigit
  let (fraction, afterFraction) :=
    match afterWhole with
    | '.' :: rest => (rest.takeWhile Char.isDigit, rest.dropWhile Char.isDigit)
    | rest => ([], rest)
  if whole.isEmpty && fraction.isEmpty then
    none
  else
    (exponentPart? afterFraction).map fun exponent =>
      { negative
        significand := DeviceConsole.Decimal.value (whole ++ fraction)
        exponent := exponent - fraction.length }

/-- The finite word nearest to a decimal text, when the text is one and does not overflow. -/
def finite? (text : List Char) : Option Binary64 :=
  ((decimal? text).map ofDecimal).filter isFinite

/-- Every word that a text is read as is finite. -/
theorem isFinite_of_finite? {text : List Char} {word : Binary64} (h : finite? text = some word) :
    word.isFinite := by
  unfold finite? at h
  exact (Option.filter_eq_some_iff.mp h).2

/-- One half is exact, the smallest positive word is reached from below, and a number past
the largest finite word has none. -/
example :
    (finite? "-0.5".toList).map bits = some 0xBFE0000000000000 ∧
    (finite? "3e-324".toList).map bits = some 1 ∧
    (finite? "1.7976931348623159e308".toList).map bits = none := by
  decide +kernel

end Binary64

end DeviceConsole
