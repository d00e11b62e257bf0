import DeviceConsole.Engine
import DeviceConsole.Session.Host

/-!
# Events of a session

Everything that a session does to the world, and everything that it learns from it, is an
event.  The events of a session in their order are its trace; what the operator sees, what
the peers receive and what the engine is asked are views of the trace.

Main results:

- Theorem {lit}`output_append` and its siblings: a view of two traces in a row is the two
  views in a row.
-/

namespace DeviceConsole

/-- A call to the engine. -/
inductive EngineCall where
  | step
  | handlePacket (connection : Connection) (bytes : List UInt8)
  | decode (path : Path) (text : String)
  | submit (device : DeviceId) (request : Request)
  | nextOutcome
  | close

/-- Who asks the console to stop. -/
inductive RaiseSource where
  /-- The operator's command. -/
  | command
  /-- The end of the operator's stream. -/
  | endOfInput
  /-- The engine. -/
  | engine
  /-- An interrupt. -/
  | interrupt
deriving DecidableEq, Repr

/-- One event of a session. -/
inductive Event where
  /-- The console took bytes. -/
  | wrote (bytes : List UInt8)
  /-- Something was told to the log. -/
  | logged (diagnostic : Diagnostic)
  /-- A health report was made. -/
  | reported (report : HealthReport)
  /-- A stage of the start was entered. -/
  | entered (stage : StartStage)
  /-- The engine was called. -/
  | called (call : EngineCall)
  /-- The engine answered a step. -/
  | stepped (answer : Except StepFailure Duration)
  /-- The engine answered a text to decode. -/
  | decoded (records : List Record)
  /-- The engine answered a request. -/
  | submitted (device : DeviceId) (request : Request) (answer : Except Status Unit)
  /-- The engine handed over an outcome, or had none. -/
  | popped (outcome : Option Outcome)
  /-- A datagram was given to the socket. -/
  | sent (peer : SocketAddress) (datagram : List UInt8)
  /-- The engine learned whether a datagram was sent. -/
  | sendAnswered (connection : ConnectionId) (answer : Except LinkFailure Unit)
  /-- A wait is over. -/
  | waited (timeout : Duration) (answer : Except WaitFailure Readiness)
  /-- The operator's stream was read. -/
  | read (answer : Except IoFailure (List UInt8))
  /-- A datagram was asked of the socket. -/
  | received (answer : Except IoFailure Datagram)
  /-- An operator line was taken. -/
  | lineTaken (line : OperatorLine)
  /-- The console was asked to stop. -/
  | raised (source : RaiseSource) (reason : Termination)
  /-- The loop looked whether to stop. -/
  | checked (reason : Option Termination)
  /-- The engine is gone. -/
  | engineDropped
  /-- The means to wait are gone. -/
  | pollerDropped
  /-- The socket is closed. -/
  | socketClosed

/-- The events of a session in their order. -/
abbrev Trace :=
  List Event

namespace Trace

/-- The bytes that the console took. -/
def output (trace : Trace) : List UInt8 :=
  trace.flatMap fun
    | .wrote bytes => bytes
    | _ => []

/-- The lines that were taken from the operator. -/
def lines (trace : Trace) : List OperatorLine :=
  trace.filterMap fun
    | .lineTaken line => some line
    | _ => none

/-- The calls to the engine. -/
def calls (trace : Trace) : List EngineCall :=
  trace.filterMap fun
    | .called call => some call
    | _ => none

/-- The datagrams that were given to the socket. -/
def sends (trace : Trace) : List (SocketAddress × List UInt8) :=
  trace.filterMap fun
    | .sent peer datagram => some (peer, datagram)
    | _ => none

@[simp]
theorem output_append (left right : Trace) :
    output (left ++ right) = output left ++ output right := by
  simp [output]

@[simp]
theorem lines_append (left right : Trace) : lines (left ++ right) = lines left ++ lines right := by
  simp [lines]

@[simp]
theorem calls_append (left right : Trace) : calls (left ++ right) = calls left ++ calls right := by
  simp [calls]

@[simp]
theorem sends_append (left right : Trace) : sends (left ++ right) = sends left ++ sends right := by
  simp [sends]

end Trace

end DeviceConsole
