import DeviceConsole.Duration
import DeviceConsole.Failure

/-!
# The host

The host is what lies around the console: the wait for readiness, the datagram socket, the
operator's stream and the interrupts that can arrive at any moment.

Main results:

- Definition {lit}`Host`: the five services, over any state of the host.
-/

namespace DeviceConsole

/-- What became ready during a wait. -/
inductive Readiness where
  /-- A datagram waits at the socket. -/
  | socket
  /-- The operator's stream has bytes or has ended. -/
  | input
  /-- The time is over. -/
  | idle
deriving DecidableEq, Repr

/-- A datagram that was received. -/
structure Datagram where
  peer : SocketAddress
  bytes : List UInt8
deriving DecidableEq, Repr

/-- The most bytes of a datagram that the console accepts. -/
def maxPacketSize : Nat :=
  2048

/-- The services of a host with states of type {lit}`ω`. -/
structure Host (ω : Type) where
  /-- Whether an interrupt has arrived since the last look. -/
  interrupt : ω → Bool × ω
  /-- Waits at most the given time for something to be ready. -/
  wait : ω → Duration → Except WaitFailure Readiness × ω
  /-- Receives a datagram. -/
  receive : ω → Except IoFailure Datagram × ω
  /-- Sends a datagram to a peer. -/
  send : ω → SocketAddress → List UInt8 → Except IoFailure Unit × ω
  /-- Reads the operator's stream once; no bytes are its end. -/
  read : ω → Except IoFailure (List UInt8) × ω

end DeviceConsole
