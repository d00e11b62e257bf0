import DeviceConsole.Launch
import DeviceConsole.Log.Line
import DeviceConsole.Script.Host
import DeviceConsole.Settings.Load
import Std.Async.Signal
import Std.Async.UDP

/-!
# The command line program

The program reads its settings, binds a socket and serves the operator at the terminal.
Only waiting, reading and writing happen here.  What a wait has found is written down as
the script of one round, and the round itself is that of the reactor.
-/

namespace DeviceConsole.Terminal

open Std.Async

/-! ## Addresses -/

/-- An address as the network library has it. -/
def toNetwork : SocketAddress → Std.Net.SocketAddress
  | .v4 ⟨a, b, c, d⟩ port => .v4 ⟨.ofParts a b c d, port⟩
  | .v6 address port _ _ => .v6 ⟨⟨address.segments.toArray, address.length_segments⟩, port⟩

/-- An address of the network library. -/
def ofNetwork : Std.Net.SocketAddress → SocketAddress
  | .v4 address =>
      let octets := address.addr.octets
      .v4 ⟨octets[0], octets[1], octets[2], octets[3]⟩ address.port
  | .v6 address =>
      .v6 ⟨address.addr.segments.toList, by simp⟩ address.port 0 0

/-! ## Sources of events -/

/-- A failure of the system, by its text. -/
def failureOf (error : IO.Error) : IoFailure :=
  .other (toString error)

/-- The result of an action, with its failure as a value. -/
def attempt {α : Type} (action : IO α) : IO (Except IoFailure α) := do
  try
    return .ok (← action)
  catch error =>
    return .error (failureOf error)

/-- The tasks that wait for the outside world. -/
structure Watch where
  socket : UDP.Socket
  interrupt : AsyncTask Int
  input : Task (Except IoFailure (List UInt8))
  datagram : AsyncTask (ByteArray × Option Std.Net.SocketAddress)

/-- Starts to read the operator's stream. -/
def readInput : IO (Task (Except IoFailure (List UInt8))) := do
  let read : IO (List UInt8) := do
    return (← (← IO.getStdin).read (USize.ofNat readSize)).toList
  let task ← IO.asTask read Task.Priority.dedicated
  return task.map fun result => result.mapError failureOf

/-- Starts to receive a datagram. -/
def receive (socket : UDP.Socket) : IO (AsyncTask (ByteArray × Option Std.Net.SocketAddress)) :=
  (socket.recv (UInt64.ofNat (maxPacketSize + 1))).toIO

/-- Waits until a source is ready or the time is over, looking every few milliseconds. -/
partial def await (watch : Watch) (inputClosed : Bool) (milliseconds : Nat) :
    IO ScriptPoll := do
  if ← IO.hasFinished watch.interrupt then
    return ⟨.error .interrupted, true⟩
  else if ← IO.hasFinished watch.datagram then
    return ⟨.ok .socket, false⟩
  else if inputClosed || (← IO.hasFinished watch.input) then
    return ⟨.ok .input, false⟩
  else if milliseconds = 0 then
    return ⟨.ok .idle, false⟩
  else
    IO.sleep 5
    await watch inputClosed (milliseconds - 5)

/-- The datagram that was received. -/
def datagramOf (watch : Watch) : Except IoFailure Datagram :=
  match watch.datagram.get with
  | .ok (bytes, some peer) => .ok ⟨ofNetwork peer, bytes.toList⟩
  | .ok (_, none) => .error .wouldBlock
  | .error error => .error (failureOf error)

/-! ## Showing -/

/-- What the log keeps and how it is written. -/
structure LogSink where
  filter : LogFilter
  format : LogFormat

/-- Writes the records of a log. -/
def writeRecords (sink : LogSink) (records : List LogRecord) : IO Unit := do
  let stderr ← IO.getStderr
  for record in records do
    if sink.filter.keeps record then
      stderr.putStrLn (sink.format.line record)

/-- Writes what a trace shows and tells, and sends what it sends. -/
def present (sink : LogSink) (socket : UDP.Socket) (trace : Trace) : IO Unit := do
  let stdout ← IO.getStdout
  stdout.write (ByteArray.mk trace.output.toArray)
  stdout.flush
  writeRecords sink <| trace.filterMap fun
    | .logged diagnostic => some diagnostic.record
    | .reported report => some report.record
    | _ => none
  for (peer, datagram) in trace.sends do
    discard <| attempt ((socket.send ⟨datagram.toArray⟩ (some (toNetwork peer))).block)

/-! ## Rounds -/

/-- The setting of the program. -/
def setting : Setting OfflineEngine ScriptedHost where
  engine := OfflineEngine.engine
  host := ScriptedHost.host
  fallbacks := .standard
  keeps _ := true
  patience := 1

/-- Serves round by round until the console is asked to stop. -/
partial def serve (sink : LogSink) (watch : Watch)
    (session : Session OfflineEngine ScriptedHost) : IO Unit := do
  match session.token with
  | some reason =>
      let ran := (Reactor.shutdown setting reason >>= fun _ =>
        Session.log setting (.consoleStopped reason)) session
      present sink watch.socket ran.events
  | none =>
      let timeout := Reactor.timeout session.input.hasLine OfflineEngine.idleWait
      let poll ← await watch session.input.closed (pollMilliseconds timeout).toNat
      let found : ScriptedHost :=
        match poll.answer with
        | .ok .socket => { ScriptedHost.idle with polls := [poll], datagrams := [datagramOf watch] }
        | .ok .input =>
            let chunks := if session.input.closed then [] else [watch.input.get]
            { ScriptedHost.idle with polls := [poll], chunks }
        | _ => { ScriptedHost.idle with polls := [poll] }
      let ran := Reactor.iterate setting { session with host := found }
      present sink watch.socket ran.events
      let watch ←
        match poll.answer with
        | .ok .socket => pure { watch with datagram := ← receive watch.socket }
        | .ok .input =>
            if session.input.closed then pure watch else pure { watch with input := ← readInput }
        | _ => pure watch
      serve sink watch ran.session

/-! ## The start -/

/-- The variables of the environment that set something. -/
def readVariables : IO (List (String × String)) := do
  let entries ← SettingKey.all.mapM fun key => do
    return (← IO.getEnv key.variableName).map (key.variableName, ·)
  return entries.filterMap id

/-- The text of the document that the command line names. -/
def readDocument (arguments : List String) : IO (Option String) := do
  match (CommandLine.read arguments).bind (·.document) with
  | none => return none
  | some path => return (← attempt (IO.FS.readFile path)).toOption

/-- Binds a socket to the address that the settings ask for; without one there is nothing to
bind. -/
def bind (socket : UDP.Socket) (settings : Except LoadFailure Settings) :
    IO (Except IoFailure SocketAddress) := do
  match settings with
  | .error _ => return .error .wouldBlock
  | .ok settings =>
      match settings.validate, settings.listenAddress with
      | .ok (), .ok address =>
          attempt do
            socket.bind (toNetwork address)
            return ofNetwork (← socket.getSockName)
      | _, _ => return .error .wouldBlock

/-- Runs the program. -/
def run (arguments : List String) : IO UInt32 := do
  let document ← readDocument arguments
  let sources : Sources :=
    { arguments, environment := ← readVariables, document := fun _ => document }
  let settings := sources.load
  let socket ← UDP.Socket.mk
  let bound ← bind socket settings
  let services : StartServices := {
    settings
    installLog := Launch.installLog
    bind := fun address => (bound.mapError (⟨.bind, address, ·⟩)).map fun _ => ()
    localAddress := fun _ => bound
    catchInterrupts := .ok ()
    watch := .ok () }
  let started := settings.toOption.getD .empty
  let filter := (LogFilter.parse started.filterText).toOption.getD ⟨[]⟩
  let sink : LogSink := ⟨filter, started.format⟩
  let ran := (Launch.ready setting services).run
    (Session.start ⟨0⟩ ScriptedHost.idle .working)
  writeRecords sink ran.events.records
  match ran.value with
  | .error cause =>
      let ended := LaunchEnd.failed cause
      (← IO.getStderr).putStr (ended.complaint.getD "")
      return UInt32.ofNat ended.status.code
  | .ok _ =>
      let waiter ← Signal.Waiter.mk .sigint false
      let watch : Watch := {
        socket
        interrupt := ← waiter.wait
        input := ← readInput
        datagram := ← receive socket }
      let greeted := Session.writeConsole setting prompt ran.session
      present sink socket greeted.events
      serve sink watch greeted.session
      return UInt32.ofNat LaunchEnd.served.status.code

end DeviceConsole.Terminal

/-- The program: the words of its command line are its arguments. -/
def main (arguments : List String) : IO UInt32 :=
  DeviceConsole.Terminal.run arguments
