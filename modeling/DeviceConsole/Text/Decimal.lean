/-!
# Decimal numerals

Identifiers, handles and periods are written as runs of the ten ASCII digits.
This module gives the value of such a run, the canonical run of a number, and the
readers that accept a whole text: one for unsigned numerals and one that allows a
sign in front.

Main results:

- Theorem {lit}`value_append_singleton`: a numeral's last digit is its unit.
- Theorem {lit}`natural?_eq_some_iff`: the unsigned reader accepts exactly the
  nonempty runs of digits.
-/

namespace DeviceConsole.Decimal

/-! ## Runs of digits -/

/-- Whether every character is one of the ten ASCII digits. -/
def allDigits (text : List Char) : Bool :=
  text.all Char.isDigit

/-- The number that one digit stands for. -/
def digitValue (c : Char) : Nat :=
  c.toNat - '0'.toNat

/-- The number that a run of digits stands for, most significant digit first. -/
def value (digits : List Char) : Nat :=
  digits.foldl (fun n c => 10 * n + digitValue c) 0

/-- The canonical numeral of a number: no superfluous zero in front. -/
def digits (n : Nat) : List Char :=
  Nat.toDigits 10 n

@[simp]
theorem value_nil : value [] = 0 :=
  rfl

/-- A numeral's last digit is its unit. -/
theorem value_append_singleton (run : List Char) (c : Char) :
    value (run ++ [c]) = 10 * value run + digitValue c := by
  simp [value]

theorem allDigits_append (left right : List Char) :
    allDigits (left ++ right) = (allDigits left && allDigits right) := by
  simp [allDigits]

/-! ## Readers of whole texts -/

/-- The value of a text that is a nonempty run of digits. -/
def natural? (text : List Char) : Option Nat :=
  if text ≠ [] ∧ allDigits text then some (value text) else none

/-- The unsigned reader accepts exactly the nonempty runs of digits. -/
theorem natural?_eq_some_iff {text : List Char} {n : Nat} :
    natural? text = some n ↔ text ≠ [] ∧ allDigits text ∧ value text = n := by
  simp only [natural?]
  split <;> simp_all

/-- The value of a nonempty run of digits below {lit}`limit`. -/
def below? (limit : Nat) (text : List Char) : Option Nat :=
  (natural? text).filter (· < limit)

/-- The value of a text that is an optional sign and a nonempty run of digits. -/
def integer? : List Char → Option Int
  | '+' :: rest => (natural? rest).map Int.ofNat
  | '-' :: rest => (natural? rest).map (fun n => -Int.ofNat n)
  | text => (natural? text).map Int.ofNat

/-- Whether an integer fits sixty-four bits with a sign. -/
def fitsSigned64 (n : Int) : Bool :=
  -9223372036854775808 ≤ n && n < 9223372036854775808

/-- A numeral padded with zeros on the left to at least {lit}`width` digits. -/
def padded (width n : Nat) : String :=
  let run := digits n
  String.ofList (List.replicate (width - run.length) '0' ++ run)

end DeviceConsole.Decimal
