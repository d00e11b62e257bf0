import DeviceConsole.Display.Device
import DeviceConsole.Display.HexDump
import DeviceConsole.Request
import DeviceConsole.Text.Utf8

/-!
# Showing outcomes

An outcome interrupts the operator's prompt: it begins on a new line with a banner, goes
on with the payload or the device that it is about, and ends with a fresh prompt.

Main results:

- Theorem {lit}`payloadText_nil`: an empty payload shows nothing.
- Definition {lit}`Outcome.text`: an outcome is its banner, its body and the prompt.
-/

namespace DeviceConsole

/-- What the operator sees when the console is ready for a line. -/
def prompt : String :=
  "> "

/-- A payload as it is shown: as text in a textual format and otherwise as a hex dump.  An
empty payload shows nothing. -/
def payloadText (format : MediaFormat) (payload : List UInt8) : String :=
  if payload.isEmpty then ""
  else if format.isTextual then Utf8.decodeText payload ++ "\n"
  else HexDump.text payload

@[simp]
theorem payloadText_nil (format : MediaFormat) : payloadText format [] = "" :=
  rfl

namespace Outcome

/-- A device's handle as it is shown. -/
def deviceText (device : DeviceId) : String :=
  "#" ++ toString device.toNat

/-- The line that says what the outcome is about. -/
def banner : Outcome → String
  | result device path status _ _ =>
      "\nClient " ++ deviceText device ++ " " ++ path.text ++ " : " ++ status.text ++ "\n"
  | notification device path count _ _ =>
      "\nNotify from client " ++ deviceText device ++ " " ++ path.text ++ " number " ++
        toString count.toNat ++ "\n"
  | registration device .created => "\nNew client " ++ deviceText device ++ " registered.\n"
  | registration device .changed => "\nClient " ++ deviceText device ++ " updated.\n"
  | registration device .deleted => "\nClient " ++ deviceText device ++ " unregistered.\n"
  | registration _ status =>
      "\nMonitor callback called with an unknown status: " ++ status.text ++ ".\n"

/-- A device as it is shown when it is registered. -/
def deviceRecord (registry : Registry) (device : DeviceId) : String :=
  match registry.get? device with
  | some entry => entry.text
  | none => ""

/-- What follows the banner: the payload, or the device when it registered or updated its
registration and is still registered. -/
def body (registry : Registry) : Outcome → String
  | result _ _ _ format payload => payloadText format payload
  | notification _ _ _ format payload => payloadText format payload
  | registration device .created => deviceRecord registry device
  | registration device .changed => deviceRecord registry device
  | registration _ _ => ""

/-- The outcome as it is shown, with the prompt after it. -/
def text (registry : Registry) (outcome : Outcome) : String :=
  outcome.banner ++ outcome.body registry ++ "\n" ++ prompt

/-- The registration statuses that the console knows. -/
def isKnownRegistration : Status → Bool
  | .created | .changed | .deleted => true
  | _ => false

end Outcome

end DeviceConsole
