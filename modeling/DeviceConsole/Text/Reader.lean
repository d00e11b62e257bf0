import DeviceConsole.Text.Hex

/-!
# Readers

A reader takes something from the front of a text and gives back what is left, so that
readers of longer forms are put together from those of shorter ones.

Main results:

- Theorem {lit}`whole_eq_some_iff`: a whole text is read when nothing is left after it.
-/

namespace DeviceConsole

/-- A reader of something in front of a text. -/
abbrev Reader (α : Type) :=
  List Char → Option (α × List Char)

namespace Reader

/-- Reads one given character. -/
def char (expected : Char) : Reader Unit
  | c :: rest => if c = expected then some ((), rest) else none
  | [] => none

/-- Whether a character is a digit in the given radix. -/
def isDigit (radix : Nat) (c : Char) : Bool :=
  match Hex.digit? c with
  | some n => n < radix
  | none => false

/-- The value of a run of digits in the given radix. -/
def valueOf (radix : Nat) (run : List Char) : Nat :=
  run.foldl (fun n c => radix * n + (Hex.digit? c).getD 0) 0

/-- Reads the longest run of digits.  It must have a digit, at most {lit}`maxDigits` of them
when that is given, a value below {lit}`limit`, and, when {lit}`padded` is not set, no
superfluous zero in front. -/
def number (radix : Nat) (maxDigits : Option Nat) (padded : Bool) (limit : Nat) : Reader Nat :=
  fun text =>
    let run := text.takeWhile (isDigit radix)
    let rest := text.dropWhile (isDigit radix)
    let fits := match maxDigits with
      | some most => run.length ≤ most
      | none => true
    if run.isEmpty || !fits then none
    else if !padded && run.length > 1 && run.head? = some '0' then none
    else if valueOf radix run < limit then some (valueOf radix run, rest)
    else none

/-- Reads a given text. -/
def exactly (expected : List Char) : Reader Unit := fun text =>
  if expected.isPrefixOf text then some ((), text.drop expected.length) else none

/-- What a reader finds when nothing is left after it. -/
def whole {α : Type} (reader : Reader α) (text : List Char) : Option α :=
  match reader text with
  | some (value, []) => some value
  | _ => none

/-- A whole text is read when nothing is left after it. -/
theorem whole_eq_some_iff {α : Type} {reader : Reader α} {text : List Char} {value : α} :
    whole reader text = some value ↔ reader text = some (value, []) := by
  unfold whole
  split
  · rename_i found
    simp [found]
  · rename_i other
    constructor
    · simp
    · intro found
      exact absurd found (by simpa using other value)

end Reader

end DeviceConsole
