import DeviceConsole.Failure
import DeviceConsole.Settings
import DeviceConsole.Termination

/-!
# Health reports

The life of the console is reported step by step: the start and its outcome, each new
peer, each datagram that is dropped, and the end.

Main results:

- Definition {lit}`StartFailure`: a failure is known by the stage in which it arose.
-/

namespace DeviceConsole

/-! ## Failures of the start -/

/-- A stage of the start. -/
inductive StartStage where
  /-- The settings are loaded. -/
  | load
  /-- The block size is checked. -/
  | blockSize
  /-- The listen host is checked. -/
  | host
  /-- The log is set up. -/
  | logging
  /-- The socket is bound. -/
  | socket
  /-- The socket's own address is looked up. -/
  | localAddress
  /-- Interrupts are caught. -/
  | interrupts
  /-- The means to wait are set up. -/
  | readiness
deriving DecidableEq, Repr

/-- The stage in which a datagram socket could not be set up. -/
inductive SocketStage where
  | create
  | configure
  | bind
deriving DecidableEq, Repr

/-- Why a datagram socket could not be set up. -/
structure SocketFailure where
  stage : SocketStage
  address : SocketAddress
  cause : IoFailure
deriving DecidableEq, Repr

/-- The failure's message. -/
def SocketFailure.message (failure : SocketFailure) : String :=
  let place := failure.address.text ++ ": " ++ failure.cause.message
  match failure.stage with
  | .create => "failed to create datagram socket for " ++ place
  | .configure => "failed to configure datagram socket for " ++ place
  | .bind => "failed to bind datagram socket at " ++ place

/-- Why log records cannot be written. -/
inductive LogSetupFailure where
  /-- The log filter is no filter; the text says why. -/
  | filter (text : String)
  /-- Another writer of log records was there first. -/
  | subscriber (text : String)
deriving DecidableEq, Repr

/-- The failure's message. -/
def LogSetupFailure.message : LogSetupFailure → String
  | filter text => "invalid log filter: " ++ text
  | subscriber text => "failed to install telemetry subscriber: " ++ text

/-- Why the settings could not be read. -/
inductive LoadFailure where
  /-- The command line is malformed or asks for something else. -/
  | flags
  /-- A layer of settings below the command line is malformed. -/
  | layers
  /-- There is no layer of settings at all. -/
  | missing
deriving DecidableEq, Repr

/-- The failure's message. -/
def LoadFailure.message : LoadFailure → String
  | flags => "the command line is not understood"
  | layers => "the settings are not understood"
  | missing => "there are no settings"

/-- Why the console did not start. -/
inductive StartFailure where
  | configuration (cause : LoadFailure)
  | validation (cause : SettingsFault)
  | telemetry (cause : LogSetupFailure)
  | transport (cause : SocketFailure)
  | signal (cause : IoFailure)
  | poller (cause : IoFailure)
deriving DecidableEq, Repr

namespace StartFailure

/-- The stage in which the failure arose. -/
def kind : StartFailure → String
  | configuration _ => "Configuration"
  | validation _ => "Validation"
  | telemetry _ => "Telemetry"
  | transport _ => "Transport"
  | signal _ => "Signal"
  | poller _ => "Poller"

/-- The failure's message. -/
def message : StartFailure → String
  | configuration cause => "failed to load configuration: " ++ cause.message
  | validation cause => "invalid configuration: " ++ cause.message
  | telemetry cause => "failed to initialise telemetry: " ++ cause.message
  | transport cause => "failed to open console socket: " ++ cause.message
  | signal cause => "failed to install interrupt handler: " ++ cause.message
  | poller cause => "failed to prepare readiness polling: " ++ cause.message

end StartFailure

/-! ## Reports -/

/-- One report on the life of the console. -/
inductive HealthReport where
  /-- The start begins. -/
  | startBegins
  /-- The socket is bound. -/
  | startSucceeded (settings : Settings) (address : SocketAddress)
  /-- The start failed. -/
  | startFailed (cause : StartFailure)
  /-- A datagram came from a peer that was not known. -/
  | connectionOpened (connection : Connection)
  /-- A datagram was too long and is dropped. -/
  | datagramDropped (peer : SocketAddress) (size : Nat)
  /-- Everything is released. -/
  | shutdownCompleted (reason : Termination) (released : Nat)
deriving DecidableEq, Repr

end DeviceConsole
