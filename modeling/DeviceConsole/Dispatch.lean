import DeviceConsole.Command.Parser
import DeviceConsole.Display.Outcome
import DeviceConsole.Session

/-!
# Carrying out commands

A line is taken apart completely before the engine hears of it.  What the command asks for
is then done at once, and the operator sees a reply: the outcome of a request arrives
later by itself.

Main results:

- Theorem {lit}`dispatch_blank`: a blank line does nothing.
- Definition {lit}`Command.execute`: what each command asks of the engine.
-/

namespace DeviceConsole

variable {η ω : Type}

namespace Command

/-- Submits a request and says how it went. -/
def submitted (S : Setting η ω) (device : DeviceId) (request : Request) :
    Activity (Session η ω) (Except CommandFailure Reply) := do
  match ← Session.submit S device request with
  | .ok () => return .ok .accepted
  | .error status => return .error (.rejected status)

/-- Shows text as the whole answer to a command. -/
def shown (S : Setting η ω) (text : String) :
    Activity (Session η ω) (Except CommandFailure Reply) := do
  match ← Session.write S text with
  | .ok () => return .ok .done
  | .error failure => return .error (.output failure)

/-- What a write sends: the decoded records when there are any, and otherwise the text as it
was typed, which only a full write may send. -/
def writePayload (records : List Record) (text : String) (isPartial : Bool) :
    Except CommandFailure Payload :=
  if !records.isEmpty then .ok (.records records)
  else if isPartial then .error .badSyntax
  else .ok (.text text)

/-- What a creation sends: the decoded records when there are any, and otherwise what the
convention of the object makes of the text. -/
def createRecords (fallbacks : Fallbacks) (records : List Record) (path : Path) (text : String) :
    Except CommandFailure (List Record) :=
  if !records.isEmpty then .ok records
  else (fallbacks.parse? path.objectId text).getD (.error .badSyntax)

/-- The request of a creation: it targets the object, and a typed instance moves into the
payload. -/
def createRequest (path : Path) (records : List Record) : Request :=
  match path.instanceId? with
  | some inst => .create path.toObject [.objectInstance inst records]
  | none => .create path records

/-- Carries out a command. -/
def execute (S : Setting η ω) : Command → Activity (Session η ω) (Except CommandFailure Reply)
  | list => do shown S (← Session.registry S).listing
  | overview => shown S CommandEntry.overview
  | explain entry => shown S (entry.explanation ++ "\n")
  | submit device request => submitted S device request
  | write device path text isPartial => do
      match writePayload (← Session.decode S path text) text isPartial with
      | .ok payload => submitted S device (.write path payload isPartial)
      | .error failure => return .error failure
  | create device path text => do
      match createRecords S.fallbacks (← Session.decode S path text) path text with
      | .ok records => submitted S device (createRequest path records)
      | .error failure => return .error failure
  | quit => do
      Session.raise .command .quit
      return .ok .done

/-- Carries out what a line asks for, if it asks for a command. -/
def attempt (S : Setting η ω) :
    Except CommandFailure Command → Activity (Session η ω) (Except CommandFailure Reply)
  | .ok command => command.execute S
  | .error failure => return .error failure

end Command

/-- Shows the operator what became of a command; a failure to show it is given back. -/
def showAnswer (S : Setting η ω) :
    Except CommandFailure Reply → Activity (Session η ω) (Except IoFailure Unit)
  | .ok .accepted => Session.write S "OK"
  | .ok .done => return .ok ()
  | .error (.output failure) => return .error failure
  | .error failure => Session.write S failure.message

/-- Carries out one line of the operator's. -/
def dispatch (S : Setting η ω) (line : List Char) :
    Activity (Session η ω) (Except IoFailure Unit) := do
  match Command.ofLine? line with
  | none => return .ok ()
  | some typed =>
      let answer ← Command.attempt S typed.command
      Session.log S (.commandDispatched typed.keyword answer)
      showAnswer S answer

/-- A blank line does nothing. -/
theorem dispatch_blank (S : Setting η ω) {line : List Char} (h : Words.atEnd line) :
    dispatch S line = pure (.ok ()) := by
  unfold dispatch
  rw [(Command.ofLine?_eq_none_iff line).mpr h]

/-- Tells the log a registration status that the console does not know. -/
def logUnknown (S : Setting η ω) : Outcome → Activity (Session η ω) Unit
  | .registration device status =>
      if !Outcome.isKnownRegistration status then
        Session.log S (.unknownRegistration device status)
      else
        pure ()
  | _ => pure ()

/-- Shows one outcome of the engine's, with a fresh prompt after it. -/
def deliver (S : Setting η ω) (outcome : Outcome) :
    Activity (Session η ω) (Except IoFailure Unit) := do
  let registry ← Session.registry S
  logUnknown S outcome
  Session.writeFlushed S (outcome.text registry)

end DeviceConsole
