import DeviceConsole.Binary64
import DeviceConsole.Text.Pieces
import DeviceConsole.Text.Reader

/-!
# Numbers and moments in documents

A value that is not quoted is a word: a number, a truth value, or a moment in time.  Digits
may be grouped by single underscores.  Integers have sixty-four bits and floating-point
numbers must be finite unless they are spelled out.

Main results:

- Theorem {lit}`fitsSigned64_of_integer?`: every integer fits its sixty-four bits.
- Definition {lit}`isMoment`: the words that are dates, times, or both.
-/

namespace DeviceConsole.Document

/-! ## Digits -/

/-- The digits of a run in which single underscores may group them. -/
def digits? (isDigit : Char → Bool) (run : List Char) : Option (List Char) :=
  let groups := pieces '_' run
  if groups.all fun group => !group.isEmpty && group.all isDigit then some groups.flatten
  else none

/-- The digits of a decimal run without a superfluous zero in front. -/
def wholeDigits? (run : List Char) : Option (List Char) :=
  (digits? Char.isDigit run).filter fun digits => digits.length = 1 || digits.head? ≠ some '0'

/-! ## Integers -/

/-- The value of a run of digits in a radix. -/
def radixValue? (radix : Nat) (run : List Char) : Option Int :=
  (digits? (Reader.isDigit radix) run).map fun digits => Int.ofNat (Reader.valueOf radix digits)

/-- The integer of a word. -/
def integer? (word : List Char) : Option Int :=
  Option.filter Decimal.fitsSigned64 <|
    match word with
    | '0' :: 'x' :: run => radixValue? 16 run
    | '0' :: 'o' :: run => radixValue? 8 run
    | '0' :: 'b' :: run => radixValue? 2 run
    | _ =>
        let (negative, run) := Binary64.splitSign word
        (wholeDigits? run).map fun digits =>
          let n := Int.ofNat (Decimal.value digits)
          if negative then -n else n

/-- Every integer fits its sixty-four bits. -/
theorem fitsSigned64_of_integer? {word : List Char} {n : Int} (h : integer? word = some n) :
    Decimal.fitsSigned64 n := by
  unfold integer? at h
  exact (Option.filter_eq_some_iff.mp h).2

/-! ## Floating-point numbers -/

/-- Cuts a text in front of the first character with a property. -/
def cutBefore (stop : Char → Bool) (text : List Char) : List Char × List Char :=
  (text.takeWhile (!stop ·), text.dropWhile (!stop ·))

/-- The digits of an exponent behind its letter, with their sign. -/
def exponentDigits? (text : List Char) : Option (List Char) :=
  let (negative, run) := Binary64.splitSign text
  (digits? Char.isDigit run).map fun digits => if negative then '-' :: digits else digits

/-- The plain numeral of a floating-point word without underscores: a whole part, then a
fraction or an exponent or both. -/
def plainFloat? (word : List Char) : Option (List Char) :=
  let (negative, unsigned) := Binary64.splitSign word
  let (mantissa, power) := cutBefore (fun c => c = 'e' || c = 'E') unsigned
  let (whole, fraction) := cutBefore (· = '.') mantissa
  if fraction.isEmpty && power.isEmpty then none
  else do
    let whole ← wholeDigits? whole
    let fraction ←
      match fraction with
      | [] => some []
      | _ :: run => (digits? Char.isDigit run).map ('.' :: ·)
    let power ←
      match power with
      | [] => some []
      | _ :: run => (exponentDigits? run).map ('e' :: ·)
    return (if negative then ['-'] else []) ++ whole ++ fraction ++ power

/-- Whether a word spells out infinity or the absence of a number. -/
def isSpelledFloat (word : List Char) : Bool :=
  let (_, name) := Binary64.splitSign word
  name = "inf".toList || name = "nan".toList

/-- Whether the floating-point number of a word is finite, when the word is one. -/
def float? (word : List Char) : Option Bool :=
  if isSpelledFloat word then some false
  else ((plainFloat? word).bind Binary64.finite?).map fun _ => true

/-! ## Moments -/

/-- The days of a month. -/
def daysOf (year month : Nat) : Nat :=
  if month = 2 then
    if year % 4 = 0 ∧ (year % 100 ≠ 0 ∨ year % 400 = 0) then 29 else 28
  else if month = 4 ∨ month = 6 ∨ month = 9 ∨ month = 11 then 30
  else 31

/-- Reads a run of exactly so many digits. -/
def readDigits (count : Nat) : Reader Nat := fun text =>
  let run := text.take count
  if run.length = count then (Decimal.natural? run).map (·, text.drop count) else none

/-- Reads a date. -/
def readDate : Reader Unit := fun text => do
  let (year, text) ← readDigits 4 text
  let (_, text) ← Reader.char '-' text
  let (month, text) ← readDigits 2 text
  let (_, text) ← Reader.char '-' text
  let (day, text) ← readDigits 2 text
  if 1 ≤ month ∧ month ≤ 12 ∧ 1 ≤ day ∧ day ≤ daysOf year month then some ((), text) else none

/-- Reads a fraction of a second, when there is one. -/
def readFraction : Reader Unit
  | '.' :: text =>
      if (text.takeWhile Char.isDigit).isEmpty then none
      else some ((), text.dropWhile Char.isDigit)
  | text => some ((), text)

/-- Reads a time of day.  A minute may have a leap second. -/
def readTime : Reader Unit := fun text => do
  let (hour, text) ← readDigits 2 text
  let (_, text) ← Reader.char ':' text
  let (minute, text) ← readDigits 2 text
  let (_, text) ← Reader.char ':' text
  let (second, text) ← readDigits 2 text
  if hour < 24 ∧ minute < 60 ∧ second ≤ 60 then readFraction text else none

/-- Reads an offset from universal time, when there is one. -/
def readOffset : Reader Unit
  | [] => some ((), [])
  | c :: text =>
      if c = 'Z' ∨ c = 'z' then some ((), text)
      else if c = '+' ∨ c = '-' then do
        let (hour, text) ← readDigits 2 text
        let (_, text) ← Reader.char ':' text
        let (minute, text) ← readDigits 2 text
        if hour < 24 ∧ minute < 60 then some ((), text) else none
      else none

/-- Reads a time behind a date. -/
def readTimeOfDate : Reader Unit
  | c :: text =>
      if c = 'T' ∨ c = 't' ∨ c = ' ' then do
        let (_, text) ← readTime text
        readOffset text
      else none
  | [] => some ((), [])

/-- Reads a date, with a time or without one. -/
def readMoment : Reader Unit := fun text => do
  let (_, text) ← readDate text
  readTimeOfDate text

/-- Whether a word is a date. -/
def isDate (word : List Char) : Bool :=
  (Reader.whole readDate word).isSome

/-- Whether a word is a date, a time, or both. -/
def isMoment (word : List Char) : Bool :=
  (Reader.whole readMoment word).isSome || (Reader.whole readTime word).isSome

/-- A leap day, a leap second and an offset are fine; a thirteenth month is not. -/
example :
    isMoment "2024-02-29T23:59:60.5+23:59".toList ∧ isMoment "07:32:00".toList ∧
      ¬isMoment "2023-02-29".toList ∧ ¬isMoment "2024-13-01".toList := by
  decide +kernel

end DeviceConsole.Document
