import DeviceConsole.Command.Failure
import DeviceConsole.Line.Words
import DeviceConsole.Path.Parser

/-!
# Arguments of a command line

A cursor walks over the arguments; each is taken once, and the line is well formed only
when nothing is left at the end.  A failed take leaves the cursor where it was.

Main results:

- Theorem {lit}`required_eq_error_iff`: a required argument is missing exactly when the
  cursor has no next word.
- Theorem {lit}`finish_eq_ok_iff`: an argument list is finished exactly when only blanks
  are left.
-/

namespace DeviceConsole

/-- A cursor over the arguments of one line: the text that is left. -/
structure Arguments where
  rest : List Char
deriving DecidableEq, Repr

namespace Arguments

/-- Takes an argument when one is left. -/
def optional (arguments : Arguments) : Option (List Char) × Arguments :=
  match Words.next? arguments.rest with
  | none => (none, arguments)
  | some (word, rest) => (some word, ⟨rest⟩)

/-- Takes an argument that must be there. -/
def required (arguments : Arguments) : Except CommandFailure (List Char) × Arguments :=
  match arguments.optional with
  | (none, arguments) => (.error .badSyntax, arguments)
  | (some word, arguments) => (.ok word, arguments)

/-- Requires that nothing is left. -/
def finish (arguments : Arguments) : Except CommandFailure Unit :=
  if Words.atEnd arguments.rest then .ok () else .error .badSyntax

/-- A required argument is missing exactly when the cursor has no next word. -/
theorem required_eq_error_iff (arguments : Arguments) :
    (∃ failure, arguments.required.1 = .error failure) ↔ Words.next? arguments.rest = none := by
  unfold required optional
  cases Words.next? arguments.rest <;> simp

/-- An argument list is finished exactly when only blanks are left. -/
theorem finish_eq_ok_iff (arguments : Arguments) :
    arguments.finish = .ok () ↔ Words.next? arguments.rest = none := by
  rw [Words.next?_eq_none_iff]
  unfold finish
  split <;> simp_all

end Arguments

/-! ## Reading typed arguments -/

/-- A step that takes arguments off a cursor or fails. -/
abbrev ArgumentReader (α : Type) :=
  ExceptT CommandFailure (StateM Arguments) α

namespace ArgumentReader

/-- Takes an argument that must be there. -/
def required : ArgumentReader (List Char) :=
  ExceptT.mk (modifyGet Arguments.required)

/-- Takes an argument when one is left. -/
def optional : ArgumentReader (Option (List Char)) :=
  ExceptT.mk (modifyGet fun arguments =>
    let (word, rest) := arguments.optional
    (.ok word, rest))

/-- Requires that nothing is left. -/
def finish : ArgumentReader Unit :=
  ExceptT.mk (modifyGet fun arguments => (arguments.finish, arguments))

/-- The value of an argument, or a syntax failure when it has none. -/
def valueOf {α : Type} (value : Option α) : ArgumentReader α :=
  match value with
  | some value => pure value
  | none => throw .badSyntax

/-- What a reader makes of a whole text of arguments. -/
def read {α : Type} (reader : ArgumentReader α) (text : List Char) : Except CommandFailure α :=
  (reader.run ⟨text⟩).1

/-- Takes a device's handle: digits with a value of sixteen bits. -/
def device : ArgumentReader DeviceId := do
  let word ← required
  let n ← valueOf (Decimal.below? 65536 word)
  return UInt16.ofNat n

/-- Takes a period: digits with a value of thirty-two bits. -/
def period : ArgumentReader UInt32 := do
  let word ← required
  let n ← valueOf (Decimal.below? 4294967296 word)
  return UInt32.ofNat n

/-- Takes a threshold: a decimal number that does not overflow. -/
def threshold : ArgumentReader Binary64 := do
  let word ← required
  valueOf (Binary64.finite? word)

/-- Takes a path that the operation accepts. -/
def path (operation : Operation) : ArgumentReader Path := do
  let word ← required
  let path ← valueOf (Path.parse word).toOption
  if operation.accepts path then return path else throw .badSyntax

end ArgumentReader

end DeviceConsole
