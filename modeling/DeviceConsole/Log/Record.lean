import DeviceConsole.Command.Failure
import DeviceConsole.Display.HexDump
import DeviceConsole.Health
import DeviceConsole.Line.Assembler
import DeviceConsole.Text.Utf8

/-!
# Log records

What the console does is also told to a log.  A diagnostic is one thing worth telling; its
record gives it a severity, the part of the console that tells it, a message and named
fields.

Main results:

- Definition {lit}`Level.admits`: a level admits what is at least as severe.
- Definition {lit}`Diagnostic.record`: the record of each thing worth telling.
-/

namespace DeviceConsole

/-! ## Severity and origin -/

/-- A severity. -/
inductive Level where
  | error
  | warn
  | info
  | debug
  | trace
deriving DecidableEq, Repr

namespace Level

/-- The place of a severity, the most severe first. -/
def rank : Level → Nat
  | error => 1
  | warn => 2
  | info => 3
  | debug => 4
  | trace => 5

/-- The severity's name. -/
def name : Level → String
  | error => "ERROR"
  | warn => "WARN"
  | info => "INFO"
  | debug => "DEBUG"
  | trace => "TRACE"

/-- All severities, the most severe first. -/
def all : List Level :=
  [error, warn, info, debug, trace]

/-- The severity with a name in any case. -/
def ofName? (text : String) : Option Level :=
  all.find? fun level => lowerAscii level.name == lowerAscii text

/-- Whether a record of the severity {lit}`level` is at least as severe as the bound. -/
def admits (bound level : Level) : Bool :=
  level.rank ≤ bound.rank

end Level

/-- The part of the console that tells something. -/
inductive Component where
  | reactor
  | dispatch
  | output
  | engine
  | transport
  | health
  | process
deriving DecidableEq, Repr

/-- The part's name in log records. -/
def Component.target : Component → String
  | reactor => "fleet-console::reactor"
  | dispatch => "fleet-console::dispatch"
  | output => "fleet-console::output"
  | engine => "fleet-console::engine"
  | transport => "fleet-console::transport"
  | health => "fleet-console::health"
  | process => "fleet-console::process"

/-- The value of a field in a record. -/
inductive LogValue where
  /-- A text, which a line shows between quotes. -/
  | text (content : String)
  | number (n : Nat)
  /-- A value that is shown by what it says of itself. -/
  | shown (content : String)
deriving DecidableEq, Repr

/-- What the value says. -/
def LogValue.content : LogValue → String
  | text content => content
  | number n => toString n
  | shown content => content

/-- A record of the log. -/
structure LogRecord where
  level : Level
  component : Component
  message : String
  fields : List (String × LogValue)
deriving DecidableEq, Repr

/-! ## Diagnostics -/

/-- One thing worth telling. -/
inductive Diagnostic where
  /-- The wait for readiness failed. -/
  | waitFailed (cause : WaitFailure)
  /-- The engine's periodic step failed. -/
  | stepFailed (cause : StepFailure)
  /-- An outcome was not printed. -/
  | outcomeNotPrinted (cause : IoFailure)
  /-- No datagram was received although one was announced. -/
  | receiveFailed (cause : IoFailure)
  /-- A datagram was received. -/
  | datagramReceived (size : Nat) (peer : SocketAddress)
  /-- The bytes of a datagram. -/
  | datagramContents (bytes : List UInt8)
  /-- The operator's stream failed. -/
  | inputFailed (cause : IoFailure)
  /-- An operator line was dropped for its length. -/
  | lineTooLong
  /-- The operator's stream is used up. -/
  | inputClosed
  /-- The output of a command was not printed. -/
  | replyNotPrinted (cause : IoFailure)
  /-- A prompt or a line end was not printed. -/
  | consoleNotWritten (cause : IoFailure)
  /-- The console was not flushed at the end. -/
  | consoleNotFlushed (cause : IoFailure)
  /-- A command line was carried out or refused. -/
  | commandDispatched (keyword : String) (answer : Except CommandFailure Reply)
  /-- A registration outcome has a status that the console does not know. -/
  | unknownRegistration (device : DeviceId) (status : Status)
  /-- The engine refused a request because no device can be registered. -/
  | requestRefused (device : DeviceId) (operation : Operation) (path : Path)
  /-- The engine has no use for a datagram. -/
  | datagramDiscarded (connection : Connection) (size : Nat)
  /-- The engine without a protocol was closed. -/
  | offlineEngineClosed (blockSize : UInt16)
  /-- The datagram socket is bound. -/
  | socketBound (address : SocketAddress)
  /-- A datagram is about to be sent. -/
  | sendingDatagram (connection : ConnectionId) (peer : SocketAddress) (size : Nat)
  /-- A health report. -/
  | health (report : HealthReport)
  /-- The console begins to serve. -/
  | consoleListening (address : SocketAddress)
  /-- The console has stopped. -/
  | consoleStopped (reason : Termination)

/-- The record of a health report. -/
def HealthReport.record : HealthReport → LogRecord
  | startBegins =>
      ⟨.info, .health, "starting console bootstrap", [("event", .text "bootstrap_starting")]⟩
  | startSucceeded settings address =>
      ⟨.info, .health, "console bootstrap completed",
        [("event", .text "bootstrap_succeeded"), ("local", .shown address.text),
         ("block_size", .number settings.block.toNat), ("log_filter", .shown settings.filterText),
         ("log_format", .shown settings.format.identifier)]⟩
  | startFailed cause =>
      ⟨.error, .health, "console bootstrap failed",
        [("event", .text "bootstrap_failed"), ("error", .shown cause.message)]⟩
  | connectionOpened connection =>
      ⟨.info, .health, "new peer",
        [("event", .text "connection_opened"), ("connection", .shown connection.id.text),
         ("peer", .shown connection.peer.text)]⟩
  | datagramDropped peer size =>
      ⟨.warn, .health, "received datagram exceeds the maximum packet size",
        [("event", .text "datagram_dropped"), ("peer", .shown peer.text), ("size", .number size)]⟩
  | shutdownCompleted reason released =>
      ⟨.info, .health, "console shut down",
        [("event", .text "shutdown_completed"), ("termination", .shown reason.identifier),
         ("released", .number released)]⟩

namespace Diagnostic

/-- The record of a diagnostic. -/
def record : Diagnostic → LogRecord
  | waitFailed cause => ⟨.warn, .reactor, "wait failed", [("error", .shown cause.message)]⟩
  | stepFailed cause =>
      ⟨.warn, .reactor, "engine step failed", [("error", .shown cause.message)]⟩
  | outcomeNotPrinted cause =>
      ⟨.warn, .reactor, "failed to print result", [("error", .shown cause.message)]⟩
  | receiveFailed cause =>
      ⟨.warn, .reactor, "receive failed", [("error", .shown cause.message)]⟩
  | datagramReceived size peer =>
      ⟨.debug, .reactor, "datagram received",
        [("bytes", .number size), ("peer", .shown peer.text)]⟩
  | datagramContents bytes =>
      ⟨.trace, .reactor, "datagram contents\n" ++ HexDump.text bytes, []⟩
  | inputFailed cause =>
      ⟨.error, .reactor, "operator input failed", [("error", .shown cause.message)]⟩
  | lineTooLong =>
      ⟨.warn, .reactor, "operator line too long", [("limit", .number maxLineLength)]⟩
  | inputClosed => ⟨.info, .reactor, "operator input closed", []⟩
  | replyNotPrinted cause =>
      ⟨.warn, .reactor, "failed to print command output", [("error", .shown cause.message)]⟩
  | consoleNotWritten cause =>
      ⟨.warn, .reactor, "failed to write console", [("error", .shown cause.message)]⟩
  | consoleNotFlushed cause =>
      ⟨.warn, .reactor, "failed to flush console", [("error", .shown cause.message)]⟩
  | commandDispatched keyword answer =>
      ⟨.debug, .dispatch, "command dispatched",
        [("keyword", .text keyword), ("outcome", .shown (identifyAnswer answer))]⟩
  | unknownRegistration device status =>
      ⟨.warn, .output, "registration event with unrecognised status",
        [("device", .number device.toNat), ("status", .shown status.text)]⟩
  | requestRefused device operation path =>
      ⟨.debug, .engine, "request refused; device is not registered",
        [("device", .number device.toNat), ("operation", .shown operation.name),
         ("uri", .shown path.text)]⟩
  | datagramDiscarded connection size =>
      ⟨.debug, .engine, "no protocol engine linked; datagram discarded",
        [("connection", .shown connection.id.text), ("peer", .shown connection.peer.text),
         ("bytes", .number size)]⟩
  | offlineEngineClosed blockSize =>
      ⟨.debug, .engine, "offline engine closed", [("block_size", .number blockSize.toNat)]⟩
  | socketBound address =>
      ⟨.debug, .transport, "datagram socket bound", [("addr", .shown address.text)]⟩
  | sendingDatagram connection peer size =>
      ⟨.trace, .transport, "sending datagram",
        [("connection", .shown connection.text), ("peer", .shown peer.text),
         ("bytes", .number size)]⟩
  | health report => report.record
  | consoleListening address =>
      ⟨.info, .process, "console listening", [("local", .shown address.text)]⟩
  | consoleStopped reason =>
      ⟨.info, .process, "console stopped", [("termination", .shown reason.identifier)]⟩

end Diagnostic

end DeviceConsole
