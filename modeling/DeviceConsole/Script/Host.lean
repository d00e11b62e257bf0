import DeviceConsole.Line.Assembler
import DeviceConsole.Session.Host

/-!
# Scripted hosts

A rehearsal also replaces the host: what each wait finds, which datagrams wait at the
socket, which peers cannot be reached and what the operator types are written down
beforehand.

Main results:

- Definition {lit}`ScriptedHost.host`: the host that follows a script.
- Definition {lit}`roundBound`: how many rounds the script can keep the console busy.
-/

namespace DeviceConsole

/-- What one wait finds, and whether an interrupt arrives during it. -/
structure ScriptPoll where
  answer : Except WaitFailure Readiness
  interrupts : Bool

/-- The state of a scripted host: what is left of the script, and whether an interrupt has
arrived that nobody has looked at. -/
structure ScriptedHost where
  polls : List ScriptPoll
  datagrams : List (Except IoFailure Datagram)
  unreachable : List SocketAddress
  chunks : List (Except IoFailure (List UInt8))
  interrupted : Bool

namespace ScriptedHost

/-- A host with nothing scripted. -/
def idle : ScriptedHost where
  polls := []
  datagrams := []
  unreachable := []
  chunks := []
  interrupted := false

/-- The next wait of the script; when there is none, the operator's stream is ready. -/
def wait (state : ScriptedHost) : Except WaitFailure Readiness × ScriptedHost :=
  match state.polls with
  | [] => (.ok .input, state)
  | poll :: rest =>
      (poll.answer,
        { state with polls := rest, interrupted := state.interrupted || poll.interrupts })

/-- The next datagram; when there is none, the socket was not ready. -/
def receive (state : ScriptedHost) : Except IoFailure Datagram × ScriptedHost :=
  match state.datagrams with
  | [] => (.error .wouldBlock, state)
  | next :: rest => (next, { state with datagrams := rest })

/-- The failure of a datagram to a peer that cannot be reached. -/
def hostUnreachable : IoFailure :=
  .other "host unreachable"

/-- Sends a datagram, which fails when the peer cannot be reached. -/
def send (state : ScriptedHost) (peer : SocketAddress) : Except IoFailure Unit × ScriptedHost :=
  (if state.unreachable.contains peer then .error hostUnreachable else .ok (), state)

/-- The bytes of one read: as many of the next chunk as fit.  The rest of the chunk waits for
the next read, and when there is no chunk the stream has ended. -/
def read (state : ScriptedHost) : Except IoFailure (List UInt8) × ScriptedHost :=
  match state.chunks with
  | [] => (.ok [], state)
  | .error failure :: rest => (.error failure, { state with chunks := rest })
  | .ok bytes :: rest =>
      let left := bytes.drop readSize
      (.ok (bytes.take readSize),
        { state with chunks := if left.isEmpty then rest else .ok left :: rest })

/-- The host that follows its script. -/
def host : Host ScriptedHost where
  interrupt state := (state.interrupted, { state with interrupted := false })
  wait state _ := wait state
  receive := receive
  send state peer _ := send state peer
  read := read

/-- The number of bytes that a chunk holds. -/
def chunkSize : Except IoFailure (List UInt8) → Nat
  | .ok bytes => bytes.length
  | .error _ => 0

/-- A bound on the rounds of a session with this host: one for each scripted wait, each read
and each line, and a few for the start and the end. -/
def roundBound (state : ScriptedHost) : Nat :=
  state.polls.length + 2 * state.chunks.length +
    2 * (state.chunks.map chunkSize).foldl Nat.add 0 + 4

end ScriptedHost

end DeviceConsole
