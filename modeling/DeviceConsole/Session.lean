import DeviceConsole.Command.Fallback
import DeviceConsole.Session.Activity
import DeviceConsole.Session.Console

/-!
# Sessions

A session is the console at work: the engine, the host, the screen, the operator's input,
the directory of connections and the token that stops it.  This module gives the single
things that a session does; each looks for an interrupt first, does one thing, and leaves
one event for it.

Main results:

- Theorem {lit}`note_events`: a single thing leaves its event, behind that of an interrupt
  when one has arrived.
- Theorem {lit}`log_session`: telling the log changes nothing.
-/

namespace DeviceConsole

/-- What stays the same during a session. -/
structure Setting (η ω : Type) where
  /-- How the engine works. -/
  engine : Engine η
  /-- How the host works. -/
  host : Host ω
  /-- The payload conventions for creations. -/
  fallbacks : Fallbacks
  /-- Which diagnostics the log keeps. -/
  keeps : Diagnostic → Bool
  /-- How many outcomes one drain of the engine's queue may take.  A drain that finds more
  is left unfinished, and the session with it. -/
  patience : Nat

/-- The console at work. -/
structure Session (η ω : Type) where
  engine : η
  host : ω
  console : Console
  input : LineAssembler
  directory : Directory
  token : TerminationToken

namespace Session

variable {η ω α : Type}

/-- A session before its first event. -/
def start (engine : η) (host : ω) (console : Console) : Session η ω where
  engine
  host
  console
  input := .empty
  directory := .empty
  token := .running

/-! ## Telling and stopping -/

/-- Tells the log a diagnostic, if the log keeps it. -/
def log (S : Setting η ω) (diagnostic : Diagnostic) : Activity (Session η ω) Unit :=
  if S.keeps diagnostic then Activity.emit (.logged diagnostic) else pure ()

/-- Makes a health report. -/
def report (report : HealthReport) : Activity (Session η ω) Unit :=
  Activity.emit (.reported report)

/-- Raises a reason to stop. -/
def raise (source : RaiseSource) (reason : Termination) : Activity (Session η ω) Unit := do
  Activity.modify fun session => { session with token := session.token.raise reason }
  Activity.emit (.raised source reason)

/-- Looks for an interrupt and raises it. -/
def attend (S : Setting η ω) : Activity (Session η ω) Unit := do
  let arrived ← Activity.modifyGet fun session =>
    let (arrived, host) := S.host.interrupt session.host
    (arrived, { session with host })
  if arrived then raise .interrupt .interrupted

/-- Does one thing: looks for an interrupt and leaves the event. -/
def note (S : Setting η ω) (event : Event) : Activity (Session η ω) Unit := do
  attend S
  Activity.emit event

/-- Telling the log changes nothing. -/
@[simp]
theorem log_session (S : Setting η ω) (diagnostic : Diagnostic) (session : Session η ω) :
    (log S diagnostic session).session = session := by
  unfold log
  split <;> rfl

/-- A single thing leaves its event, behind that of an interrupt when one has arrived. -/
theorem note_events (S : Setting η ω) (event : Event) (session : Session η ω) :
    (note S event session).events =
      (if (S.host.interrupt session.host).1 then [.raised .interrupt .interrupted] else []) ++
        [event] := by
  cases arrived : (S.host.interrupt session.host).1 <;>
    simp [note, attend, raise, arrived]

/-! ## The screen -/

/-- Writes text to the screen. -/
def write (S : Setting η ω) (text : String) :
    Activity (Session η ω) (Except IoFailure Unit) := do
  attend S
  let written ← Activity.modifyGet fun session =>
    let written := session.console.write (Utf8.encode text)
    (written, { session with console := written.console })
  Activity.emit (.wrote written.accepted)
  return written.result

/-- Flushes the screen. -/
def flush : Activity (Session η ω) (Except IoFailure Unit) := do
  return (← Activity.get).console.flush

/-- Writes text to the screen and flushes it, unless the write fails. -/
def writeFlushed (S : Setting η ω) (text : String) :
    Activity (Session η ω) (Except IoFailure Unit) := do
  match ← write S text with
  | .ok () => flush
  | .error failure => return .error failure

/-- Tells the log a failure, if there is one. -/
def logFailure (S : Setting η ω) (diagnostic : IoFailure → Diagnostic)
    (result : Except IoFailure Unit) : Activity (Session η ω) Unit :=
  match result with
  | .ok () => pure ()
  | .error failure => log S (diagnostic failure)

/-- Writes text for the prompt or around it; a failure is told to the log. -/
def writeConsole (S : Setting η ω) (text : String) : Activity (Session η ω) Unit := do
  logFailure S .consoleNotWritten (← writeFlushed S text)

/-! ## The engine -/

/-- Sends a datagram over a connection. -/
def sendOver (S : Setting η ω) (connection : ConnectionId) (datagram : List UInt8) :
    Activity (Session η ω) (Except LinkFailure Unit) := do
  match (← Activity.get).directory.get? connection with
  | none => return .error (.unknownConnection connection)
  | some entry =>
      log S (.sendingDatagram connection entry.peer datagram.length)
      note S (.sent entry.peer datagram)
      let result ← Activity.modifyGet fun session =>
        let (result, host) := S.host.send session.host entry.peer datagram
        (result, { session with host })
      return result.mapError LinkFailure.send

/-- Does what an engine does on the side. -/
def heed (S : Setting η ω) : Remark → Activity (Session η ω) Unit
  | .raise reason => raise .engine reason
  | .log diagnostic => log S diagnostic

/-- Does several things that an engine does on the side. -/
def heedAll (S : Setting η ω) : List Remark → Activity (Session η ω) Unit
  | [] => pure ()
  | remark :: rest => do
      heed S remark
      heedAll S rest

/-- Carries out a dialogue with the engine. -/
def converse (S : Setting η ω) : Dialogue α → Activity (Session η ω) α
  | .finish value => pure value
  | .remark remark rest => do
      heed S remark
      converse S rest
  | .send connection datagram resume => do
      let answer ← sendOver S connection datagram
      Activity.emit (.sendAnswered connection answer)
      converse S (resume answer)

/-- Lets the engine step. -/
def stepEngine (S : Setting η ω) : Activity (Session η ω) (Except StepFailure Duration) := do
  note S (.called .step)
  let (engine, answer) ← converse S (S.engine.step (← Activity.get).engine)
  Activity.modify fun session => { session with engine }
  Activity.emit (.stepped answer)
  return answer

/-- Hands a datagram to the engine. -/
def handlePacket (S : Setting η ω) (connection : Connection) (bytes : List UInt8) :
    Activity (Session η ω) Unit := do
  note S (.called (.handlePacket connection bytes))
  let engine ← converse S (S.engine.handlePacket (← Activity.get).engine connection bytes)
  Activity.modify fun session => { session with engine }

/-- Asks the engine for the records that a text stands for. -/
def decode (S : Setting η ω) (path : Path) (text : String) :
    Activity (Session η ω) (List Record) := do
  note S (.called (.decode path text))
  let engine := (← Activity.get).engine
  heedAll S (S.engine.decodeRemarks engine path text)
  let records := S.engine.decode engine path text
  Activity.emit (.decoded records)
  return records

/-- Submits a request to the engine. -/
def submit (S : Setting η ω) (device : DeviceId) (request : Request) :
    Activity (Session η ω) (Except Status Unit) := do
  note S (.called (.submit device request))
  let answer := S.engine.submit (← Activity.get).engine device request
  heedAll S answer.remarks
  Activity.modify fun session => { session with engine := answer.engine }
  Activity.emit (.submitted device request answer.value)
  return answer.value

/-- Takes the oldest outcome from the engine. -/
def popOutcome (S : Setting η ω) : Activity (Session η ω) (Option Outcome) := do
  note S (.called .nextOutcome)
  let answer := S.engine.nextOutcome (← Activity.get).engine
  heedAll S answer.remarks
  Activity.modify fun session => { session with engine := answer.engine }
  Activity.emit (.popped answer.value)
  return answer.value

/-- Closes the engine. -/
def closeEngine (S : Setting η ω) : Activity (Session η ω) Unit := do
  note S (.called .close)
  converse S (S.engine.close (← Activity.get).engine)

/-- The devices that are registered at the moment. -/
def registry (S : Setting η ω) : Activity (Session η ω) Registry := do
  return S.engine.registry (← Activity.get).engine

/-! ## The host -/

/-- Waits for something to be ready. -/
def wait (S : Setting η ω) (timeout : Duration) :
    Activity (Session η ω) (Except WaitFailure Readiness) := do
  attend S
  let answer ← Activity.modifyGet fun session =>
    let (answer, host) := S.host.wait session.host timeout
    (answer, { session with host })
  Activity.emit (.waited timeout answer)
  return answer

/-- What the console gets to see of a datagram: one byte more than it accepts at most. -/
def cut (datagram : Datagram) : Datagram :=
  { datagram with bytes := datagram.bytes.take (maxPacketSize + 1) }

/-- Receives a datagram. -/
def receive (S : Setting η ω) : Activity (Session η ω) (Except IoFailure Datagram) := do
  attend S
  let answer ← Activity.modifyGet fun session =>
    let (answer, host) := S.host.receive session.host
    (answer.map cut, { session with host })
  Activity.emit (.received answer)
  return answer

/-- Reads the operator's stream once and takes in what was read.  A closed input is not
read. -/
def fillInput (S : Setting η ω) : Activity (Session η ω) (Except IoFailure Unit) := do
  if (← Activity.get).input.closed then
    return .ok ()
  else
    attend S
    let answer ← Activity.modifyGet fun session =>
      let (answer, host) := S.host.read session.host
      (answer, { session with host })
    Activity.emit (.read answer)
    Activity.modifyGet fun session =>
      let (result, input) := session.input.fill answer
      (result, { session with input })

/-- Takes the next complete line of the operator's. -/
def takeLine : Activity (Session η ω) (Option OperatorLine) := do
  let line ← Activity.modifyGet fun session =>
    let (line, input) := session.input.takeLine
    (line, { session with input })
  match line with
  | none => return none
  | some line =>
      Activity.emit (.lineTaken line)
      return some line

/-- Looks whether the session is asked to stop. -/
def isRaised (S : Setting η ω) : Activity (Session η ω) Bool := do
  attend S
  return (← Activity.get).token.isSome

/-- Looks whether the loop is to stop, and why. -/
def check (S : Setting η ω) : Activity (Session η ω) (Option Termination) := do
  attend S
  let reason := (← Activity.get).token
  Activity.emit (.checked reason)
  return reason

/-- The loop looks at the token after it has looked for an interrupt. -/
theorem check_events (S : Setting η ω) (session : Session η ω) :
    (check S session).events =
      (attend S session).events ++ [.checked (attend S session).session.token] :=
  rfl

/-- What the loop finds is the token. -/
theorem check_value (S : Setting η ω) (session : Session η ω) :
    (check S session).value = (attend S session).session.token :=
  rfl

end Session

end DeviceConsole
