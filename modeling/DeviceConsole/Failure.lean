import DeviceConsole.Directory

/-!
# Failures of the outside world

The console, the operator stream, the datagram socket and the wait for readiness can each
fail.  An interruption and a spurious wake-up are told apart from all other failures,
which are known by their text.

Main results:

- Theorem {lit}`isTransient_iff`: exactly two failures leave a stream usable.
-/

namespace DeviceConsole

/-- The failure of an input or output operation. -/
inductive IoFailure where
  /-- A signal interrupted the operation. -/
  | interrupted
  /-- The operation was not ready after all. -/
  | wouldBlock
  /-- Any other failure, by its text. -/
  | other (text : String)
deriving DecidableEq, Repr

namespace IoFailure

/-- The failure's message. -/
def message : IoFailure → String
  | interrupted => "operation interrupted"
  | wouldBlock => "operation would block"
  | other text => text

/-- Whether the operation may simply be tried again later. -/
def isTransient : IoFailure → Bool
  | interrupted | wouldBlock => true
  | other _ => false

/-- Exactly two failures leave a stream usable. -/
theorem isTransient_iff (failure : IoFailure) :
    failure.isTransient ↔ failure = interrupted ∨ failure = wouldBlock := by
  cases failure <;> simp [isTransient]

end IoFailure

/-- Why a datagram was not sent over a connection. -/
inductive LinkFailure where
  /-- No connection has the handle. -/
  | unknownConnection (connection : ConnectionId)
  /-- The socket refused the datagram. -/
  | send (cause : IoFailure)
deriving DecidableEq, Repr

/-- The failure's message. -/
def LinkFailure.message : LinkFailure → String
  | unknownConnection connection => "unknown connection " ++ connection.text
  | send cause => "failed to send datagram: " ++ cause.message

/-- Why the engine's periodic step failed. -/
inductive StepFailure where
  /-- A failure of the engine itself, by its code. -/
  | code (number : UInt32)
  /-- A datagram could not be sent. -/
  | link (cause : LinkFailure)
deriving DecidableEq, Repr

/-- The failure's message. -/
def StepFailure.message : StepFailure → String
  | code number => "engine step failed with code 0x" ++ Hex.lower number.toNat
  | link cause => "engine step could not send: " ++ cause.message

/-- Why a wait ended without saying what is ready. -/
inductive WaitFailure where
  /-- A signal interrupted the wait. -/
  | interrupted
  /-- The wait itself failed. -/
  | failed (cause : IoFailure)
deriving DecidableEq, Repr

/-- The failure's message. -/
def WaitFailure.message : WaitFailure → String
  | interrupted => "wait interrupted by a signal"
  | failed cause => "wait failed: " ++ cause.message

end DeviceConsole
