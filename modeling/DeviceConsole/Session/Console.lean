import DeviceConsole.Failure
import DeviceConsole.Text.Utf8

/-!
# The console's output

A console takes bytes in order.  One that breaks takes only so many bytes in all and fails
every write that would go beyond them, after taking what still fits; another fails
whenever it is flushed.

Main results:

- Theorem {lit}`write_working`: a console without a limit takes everything.
- Theorem {lit}`accepted_eq_take`: a console takes what fits.
-/

namespace DeviceConsole

/-- The operator's screen: how many more bytes it takes, when it has a limit, and whether
flushing it fails. -/
structure Console where
  room : Option Nat
  flushFails : Bool
deriving DecidableEq, Repr

namespace Console

/-- A console that never fails. -/
def working : Console :=
  ⟨none, false⟩

/-- The failure of a write that a console has no room for. -/
def gone : IoFailure :=
  .other "console gone"

/-- The failure of a flush. -/
def notFlushed : IoFailure :=
  .other "flush failed"

/-- What a write gives: the bytes taken, whether all were, and the console after it. -/
structure Written where
  accepted : List UInt8
  result : Except IoFailure Unit
  console : Console

/-- Writes bytes. -/
def write (console : Console) (bytes : List UInt8) : Written :=
  match console.room with
  | none => ⟨bytes, .ok (), console⟩
  | some room =>
      if bytes.length ≤ room then
        ⟨bytes, .ok (), { console with room := some (room - bytes.length) }⟩
      else
        ⟨bytes.take room, .error gone, { console with room := some 0 }⟩

/-- Flushes the console. -/
def flush (console : Console) : Except IoFailure Unit :=
  if console.flushFails then .error notFlushed else .ok ()

/-- A console without a limit takes everything. -/
theorem write_working {console : Console} (h : console.room = none) (bytes : List UInt8) :
    console.write bytes = ⟨bytes, .ok (), console⟩ := by
  simp [write, h]

/-- A console takes what fits. -/
theorem accepted_eq_take {console : Console} {room : Nat} (h : console.room = some room)
    (bytes : List UInt8) : (console.write bytes).accepted = bytes.take room := by
  unfold write
  rw [h]
  dsimp only
  split
  · rename_i fits
    rw [List.take_of_length_le fits]
  · rfl

/-- A console takes the first ones of the bytes. -/
theorem accepted_isPrefix (console : Console) (bytes : List UInt8) :
    (console.write bytes).accepted <+: bytes := by
  cases hroom : console.room with
  | none => simp [write_working hroom]
  | some room =>
      rw [accepted_eq_take hroom]
      exact List.take_prefix room bytes

end Console

end DeviceConsole
