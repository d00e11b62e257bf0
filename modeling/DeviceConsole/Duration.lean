/-!
# Durations

Waits are lengths of time, exact to the nanosecond.  A wait primitive that counts in
milliseconds is given the whole ones only, so it never waits longer than asked.

Main results:

- Theorem {lit}`ofMilliseconds_milliseconds_le`: whole milliseconds are never more than
  the duration.
-/

namespace DeviceConsole

/-- A length of time. -/
structure Duration where
  nanoseconds : Nat
deriving DecidableEq, Repr

namespace Duration

/-- No time. -/
def zero : Duration :=
  ⟨0⟩

/-- A number of milliseconds. -/
def ofMilliseconds (n : Nat) : Duration :=
  ⟨n * 1000000⟩

/-- The whole milliseconds in a duration. -/
def milliseconds (duration : Duration) : Nat :=
  duration.nanoseconds / 1000000

/-- The shorter of two durations. -/
def min (left right : Duration) : Duration :=
  ⟨Nat.min left.nanoseconds right.nanoseconds⟩

@[simp]
theorem milliseconds_ofMilliseconds (n : Nat) : (ofMilliseconds n).milliseconds = n := by
  simp [ofMilliseconds, milliseconds]

/-- Whole milliseconds are never more than the duration. -/
theorem ofMilliseconds_milliseconds_le (duration : Duration) :
    (ofMilliseconds duration.milliseconds).nanoseconds ≤ duration.nanoseconds :=
  Nat.div_mul_le_self ..

end Duration

/-- The longest single wait, whatever the engine asks for. -/
def waitCeiling : Duration :=
  .ofMilliseconds 60000

/-- The whole milliseconds that the wait primitive is given for a wait.  They fit the
sixteen bits that it takes; the largest of these stands in for anything that would not. -/
def pollMilliseconds (timeout : Duration) : UInt16 :=
  let whole := (timeout.min waitCeiling).milliseconds
  if whole < 65536 then UInt16.ofNat whole else 65535

end DeviceConsole
