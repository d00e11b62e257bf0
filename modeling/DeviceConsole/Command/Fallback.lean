import DeviceConsole.Command.Failure

/-!
# Payload conventions

A creation whose payload the engine cannot decode may still be readable by a convention
of its object.  Conventions are registered by object; the latest registration counts.

Main results:

- Theorem {lit}`parse?_insert`: a registration concerns its own object only.
- Theorem {lit}`bareInteger_of_integer?`: the built-in convention reads one integer.
-/

namespace DeviceConsole

/-- A convention: the records that a text stands for. -/
abbrev PayloadConvention :=
  String → Except CommandFailure (List Record)

/-- The conventions in use, by object, the latest registration first. -/
structure Fallbacks where
  conventions : List (UInt16 × PayloadConvention)

namespace Fallbacks

/-- No conventions. -/
def empty : Fallbacks :=
  ⟨[]⟩

/-- Registers a convention in place of an earlier one of its object. -/
def insert (fallbacks : Fallbacks) (object : UInt16) (convention : PayloadConvention) :
    Fallbacks :=
  ⟨(object, convention) :: fallbacks.conventions.filter (·.1 != object)⟩

/-- What the object's convention makes of a text, when the object has one. -/
def parse? (fallbacks : Fallbacks) (object : UInt16) (text : String) :
    Option (Except CommandFailure (List Record)) :=
  (fallbacks.conventions.find? (·.1 == object)).map fun entry => entry.2 text

/-- A registration concerns its own object only. -/
theorem parse?_insert (fallbacks : Fallbacks) (registered object : UInt16)
    (convention : PayloadConvention) (text : String) :
    (fallbacks.insert registered convention).parse? object text =
      if registered = object then some (convention text) else fallbacks.parse? object text := by
  unfold parse? insert
  rw [List.find?_cons]
  split
  · rename_i same
    simp only [beq_iff_eq] at same
    simp [same]
  · rename_i different
    simp only [beq_eq_false_iff_ne, ne_eq] at different
    rw [if_neg different, List.find?_filter]
    congr 2
    funext entry
    by_cases h : entry.1 = object
    · simp [h, Ne.symm different]
    · simp [h]

end Fallbacks

/-- The object whose instances may be created from a bare integer. -/
def bareIntegerObject : UInt16 :=
  31024

/-- The number of a text that is an integer of sixty-four bits. -/
def integer64? (text : List Char) : Option Int64 :=
  ((Decimal.integer? text).filter Decimal.fitsSigned64).map Int64.ofInt

/-- Reads an integer as the value of resource 1. -/
def bareInteger : PayloadConvention := fun text =>
  match integer64? text.toList with
  | some n => .ok [.mk 1 (.integer n)]
  | none => .error .invalidValue

/-- The built-in convention reads one integer. -/
theorem bareInteger_of_integer? {text : String} {n : Int64} (h : integer64? text.toList = some n) :
    bareInteger text = .ok [.mk 1 (.integer n)] := by
  simp [bareInteger, h]

/-- The conventions in use unless others are given. -/
def Fallbacks.standard : Fallbacks :=
  empty.insert bareIntegerObject bareInteger

end DeviceConsole
