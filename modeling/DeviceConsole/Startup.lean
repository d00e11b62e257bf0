import DeviceConsole.Reactor

/-!
# Starting the console

The console starts in stages, and each stage needs the ones before it.  The first stage
that fails is reported once and ends the start; nothing that comes later is tried.

Main results:

- Theorem {lit}`pass_of_error`: a stage that fails is reported, and its failure is the value.
- Definition {lit}`bootstrap`: the stages in their order.
-/

namespace DeviceConsole

/-- What the stages of a start find. -/
structure StartServices where
  /-- The settings. -/
  settings : Except LoadFailure Settings
  /-- Sets the log up. -/
  installLog : Settings → Except LogSetupFailure Unit
  /-- Binds a socket to an address. -/
  bind : SocketAddress → Except SocketFailure Unit
  /-- The address of the socket that was to be bound to an address. -/
  localAddress : SocketAddress → Except IoFailure SocketAddress
  /-- Catches interrupts. -/
  catchInterrupts : Except IoFailure Unit
  /-- Sets up the means to wait. -/
  watch : Except IoFailure Unit

/-- What a start leaves: the settings and the address of the socket. -/
structure Started where
  settings : Settings
  address : SocketAddress
deriving DecidableEq, Repr

namespace Startup

variable {η ω α : Type}

/-- A part of the start; a failure ends the start. -/
abbrev Part (η ω α : Type) :=
  ExceptT StartFailure (Activity (Session η ω)) α

/-- Enters a stage.  A failure is reported. -/
def pass (stage : StartStage) (outcome : Except StartFailure α) : Part η ω α :=
  ExceptT.mk do
    Activity.emit (.entered stage)
    match outcome with
    | .ok value => return .ok value
    | .error cause =>
        Session.report (.startFailed cause)
        return .error cause

/-- Does something that cannot fail. -/
def also (activity : Activity (Session η ω) α) : Part η ω α :=
  ExceptT.lift activity

/-- The stages up to the bound socket. -/
def bootstrap (S : Setting η ω) (services : StartServices) : Part η ω Started := do
  also (Session.report .startBegins)
  let settings ← pass .load (services.settings.mapError .configuration)
  pass .blockSize (settings.checkBlockSize.mapError .validation)
  let requested ← pass .host (settings.listenAddress.mapError .validation)
  pass .logging ((services.installLog settings).mapError .telemetry)
  pass .socket ((services.bind requested).mapError .transport)
  also (Session.log S (.socketBound requested))
  let address ← pass .localAddress
    ((services.localAddress requested).mapError fun cause => .transport ⟨.bind, requested, cause⟩)
  also (Session.report (.startSucceeded settings address))
  return { settings, address }

/-- The stage in which interrupts are caught. -/
def registerInterrupt (services : StartServices) : Part η ω Unit :=
  pass .interrupts (services.catchInterrupts.mapError .signal)

/-- The last stage, in which the means to wait are set up. -/
def watch (services : StartServices) : Part η ω Unit :=
  pass .readiness (services.watch.mapError .poller)

/-- The last stage, and then up to {lit}`rounds` rounds of the reactor. -/
def serve (S : Setting η ω) (services : StartServices) (rounds : Nat) :
    Part η ω (Option Termination) := do
  watch services
  also (Reactor.run S rounds)

/-- A stage that succeeds leaves one event. -/
theorem pass_of_ok (stage : StartStage) (value : α) (session : Session η ω) :
    (pass stage (.ok value)).run session = ⟨.ok value, [.entered stage], session⟩ :=
  rfl

/-- A stage that fails is reported, and its failure is the value. -/
theorem pass_of_error (stage : StartStage) (cause : StartFailure) (session : Session η ω) :
    (pass stage (.error cause : Except StartFailure α)).run session =
      ⟨.error cause, [.entered stage, .reported (.startFailed cause)], session⟩ :=
  rfl

end Startup

end DeviceConsole
