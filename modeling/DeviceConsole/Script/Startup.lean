import DeviceConsole.Launch
import DeviceConsole.Script.Host

/-!
# Scripted starts

A rehearsal starts the console on a machine without a working network: any IPv4 address can
be bound, but of the IPv6 addresses only the wildcard, unless the address is taken.

Main results:

- Definition {lit}`ScriptedStart.bind`: which addresses can be bound.
-/

namespace DeviceConsole

/-- A scripted start: the settings, whether the address is taken, and whether the log is set
up anew or was set up before. -/
structure ScriptedStart where
  settings : Except LoadFailure Settings
  occupied : Bool
  setsUpLog : Bool

namespace ScriptedStart

/-- The failure of binding an address that is taken. -/
def addressInUse : IoFailure :=
  .other "Address already in use (os error 98)"

/-- The failure of binding an address that the machine does not have. -/
def addressNotAvailable : IoFailure :=
  .other "Cannot assign requested address (os error 99)"

/-- Whether the machine has an address. -/
def hasAddress : SocketAddress → Bool
  | .v4 _ _ => true
  | .v6 address _ _ _ => address == Ipv6.unspecified

/-- Binds a socket to an address. -/
def bind (start : ScriptedStart) (address : SocketAddress) : Except SocketFailure Unit :=
  if start.occupied then .error ⟨.bind, address, addressInUse⟩
  else if hasAddress address then .ok ()
  else .error ⟨.bind, address, addressNotAvailable⟩

/-- What the stages of the start find. -/
def services (start : ScriptedStart) : StartServices where
  settings := start.settings
  installLog settings := if start.setsUpLog then Launch.installLog settings else .ok ()
  bind := start.bind
  localAddress address := .ok address
  catchInterrupts := .ok ()
  watch := .ok ()

end ScriptedStart

end DeviceConsole
