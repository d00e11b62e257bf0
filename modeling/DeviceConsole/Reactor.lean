import DeviceConsole.Dispatch

/-!
# The reactor

The console is one loop.  Each round steps the engine, shows the outcomes that it queued,
waits until something is ready or the engine's time is over, and then serves one source:
the socket, or else the operator.  The loop looks once a round whether it is asked to
stop, and on its way out lets go of everything in a fixed order.

Main results:

- Definition {lit}`iterate`: one round.
- Definition {lit}`run`: rounds until the console is asked to stop, and the shutdown.
-/

namespace DeviceConsole.Reactor

variable {η ω : Type}

/-! ## One round -/

/-- Lets the engine step and says how long it may be left alone. -/
def stepEngine (S : Setting η ω) : Activity (Session η ω) Duration := do
  match ← Session.stepEngine S with
  | .ok duration => return duration
  | .error failure =>
      Session.log S (.stepFailed failure)
      return waitCeiling

/-- Shows the outcomes that the engine has queued, and says whether the queue was emptied
before {lit}`patience` outcomes were taken. -/
def drain (S : Setting η ω) : Nat → Activity (Session η ω) Bool
  | 0 => return false
  | patience + 1 => do
      match ← Session.popOutcome S with
      | none => return true
      | some outcome =>
          Session.logFailure S .outcomeNotPrinted (← deliver S outcome)
          drain S patience

/-- Takes a datagram of an acceptable size: resolves the connection of its peer and hands it
to the engine. -/
def acceptDatagram (S : Setting η ω) (datagram : Datagram) : Activity (Session η ω) Unit := do
  Session.log S (.datagramReceived datagram.bytes.length datagram.peer)
  Session.log S (.datagramContents datagram.bytes)
  let resolved ← Activity.modifyGet fun session =>
    let resolved := session.directory.resolve datagram.peer
    (resolved, { session with directory := resolved.directory })
  if resolved.created then
    Session.report (.connectionOpened resolved.connection)
  Session.handlePacket S resolved.connection datagram.bytes

/-- Serves the socket: one datagram. -/
def serveSocket (S : Setting η ω) : Activity (Session η ω) Unit := do
  match ← Session.receive S with
  | .error failure =>
      if !failure.isTransient then
        Session.log S (.receiveFailed failure)
  | .ok datagram =>
      if datagram.bytes.length > maxPacketSize then
        Session.report (.datagramDropped datagram.peer datagram.bytes.length)
      else
        acceptDatagram S datagram

/-- Leaves the operator at a fresh prompt, or at an empty line when the console is asked to
stop. -/
def promptAgain (S : Setting η ω) : Activity (Session η ω) Unit := do
  if ← Session.isRaised S then
    Session.writeConsole S "\n"
  else
    Session.writeConsole S prompt

/-- Carries out a line of the operator's and ends with a fresh prompt, or with an empty line
when the console is asked to stop. -/
def runCommand (S : Setting η ω) (line : String) : Activity (Session η ω) Unit := do
  if line ≠ "" then
    Session.logFailure S .replyNotPrinted (← dispatch S line.toList)
    Session.writeConsole S "\n"
  promptAgain S

/-- Serves one line of the operator's. -/
def serveLine (S : Setting η ω) : OperatorLine → Activity (Session η ω) Unit
  | .command line => runCommand S line
  | .overlong => do
      Session.log S .lineTooLong
      Session.writeConsole S CommandFailure.badSyntax.message
      Session.writeConsole S "\n"
      Session.writeConsole S prompt

/-- Stops the console when the operator's stream has ended and no line is left. -/
def endInput (S : Setting η ω) : Activity (Session η ω) Unit := do
  if (← Activity.get).input.isExhausted then
    Session.log S .inputClosed
    Session.raise .endOfInput .quit

/-- Serves one line of the operator's when one is complete. -/
def serveNextLine (S : Setting η ω) : Activity (Session η ω) Unit := do
  match ← Session.takeLine with
  | some line => serveLine S line
  | none => endInput S

/-- Serves the operator: reads the stream once when it is readable, and then serves one line
when one is complete.  When the stream has ended and no line is left, the console stops. -/
def serveInput (S : Setting η ω) (readable : Bool) : Activity (Session η ω) Unit := do
  if readable then
    Session.logFailure S .inputFailed (← Session.fillInput S)
  serveNextLine S

/-- Serves what a wait has found. -/
def serve (S : Setting η ω) : Except WaitFailure Readiness → Activity (Session η ω) Unit
  | .ok .socket => serveSocket S
  | .ok .input => serveInput S true
  | .ok .idle => do
      if (← Activity.get).input.hasLine then
        serveInput S false
  | .error .interrupted => return ()
  | .error failure => Session.log S (.waitFailed failure)

/-- How long to wait: not at all while a line is waiting, and otherwise as long as the engine
allows, up to the ceiling. -/
def timeout (hasLine : Bool) (deadline : Duration) : Duration :=
  if hasLine then .zero else deadline.min waitCeiling

/-- One round.  The value says whether the round was finished. -/
def iterate (S : Setting η ω) : Activity (Session η ω) Bool := do
  let deadline ← stepEngine S
  if ← drain S S.patience then
    let hasLine := (← Activity.get).input.hasLine
    serve S (← Session.wait S (timeout hasLine deadline))
    return true
  else
    return false

/-! ## The run -/

/-- Up to {lit}`rounds` rounds, until the console is asked to stop. -/
def loop (S : Setting η ω) : Nat → Activity (Session η ω) (Option Termination)
  | 0 => return none
  | rounds + 1 => do
      match ← Session.check S with
      | some reason => return some reason
      | none =>
          if ← iterate S then
            loop S rounds
          else
            return none

/-- Lets go of everything: the engine is closed while its connections still lead somewhere,
and reported at the end is how many connections there were. -/
def shutdown (S : Setting η ω) (reason : Termination) : Activity (Session η ω) Unit := do
  Session.closeEngine S
  Activity.emit .engineDropped
  Activity.emit .pollerDropped
  Activity.emit .socketClosed
  let released ← Activity.modifyGet fun session =>
    (session.directory.size, { session with directory := session.directory.release })
  Session.logFailure S .consoleNotFlushed (← Session.flush)
  Session.report (.shutdownCompleted reason released)

/-- Runs the console for up to {lit}`rounds` rounds.  The value is why it stopped; there is
none while it still runs. -/
def run (S : Setting η ω) (rounds : Nat) : Activity (Session η ω) (Option Termination) := do
  Session.writeConsole S prompt
  match ← loop S rounds with
  | none => return none
  | some reason =>
      shutdown S reason
      return some reason

end DeviceConsole.Reactor
