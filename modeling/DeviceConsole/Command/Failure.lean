import DeviceConsole.Failure
import DeviceConsole.Request
import DeviceConsole.Text.Quoted

/-!
# Failures of a command

A command line can be malformed, carry an unacceptable value, be refused by the engine or
name no command; all of these are told to the operator.  A failure to write the console
is not, because there is nowhere to tell it.

Main results:

- Theorem {lit}`isOperatorFacing_iff`: exactly the output failures are kept from the
  operator.
-/

namespace DeviceConsole

/-- Why a command line was not carried out. -/
inductive CommandFailure where
  /-- Arguments are missing, malformed or too many. -/
  | badSyntax
  /-- A payload is well formed but no acceptable value. -/
  | invalidValue
  /-- The engine refused the request. -/
  | rejected (status : Status)
  /-- No command has the keyword. -/
  | unknownCommand (keyword : String)
  /-- The console could not be written. -/
  | output (cause : IoFailure)
deriving DecidableEq, Repr

/-- What a command that was carried out leaves to be said. -/
inductive Reply where
  /-- The engine accepted a request. -/
  | accepted
  /-- Nothing is left to be said. -/
  | done
deriving DecidableEq, Repr

namespace CommandFailure

/-- The failure's message. -/
def message : CommandFailure → String
  | badSyntax => "Syntax error !"
  | invalidValue => "Invalid value !"
  | rejected status => "Error: " ++ status.text
  | unknownCommand _ => "Unknown command. Type 'help' for help."
  | output cause => "failed to write console output: " ++ cause.message

theorem message_rejected (status : Status) :
    (rejected status).message = "Error: " ++ status.text :=
  rfl

/-- Whether the failure is told to the operator. -/
def isOperatorFacing : CommandFailure → Bool
  | output _ => false
  | _ => true

/-- Exactly the output failures are kept from the operator. -/
theorem isOperatorFacing_iff (failure : CommandFailure) :
    failure.isOperatorFacing ↔ ∀ cause, failure ≠ output cause := by
  cases failure <;> simp [isOperatorFacing]

end CommandFailure

/-! ## Identification in log records -/

/-- An input or output failure as a log record identifies it. -/
def IoFailure.identifier : IoFailure → String
  | interrupted => "Kind(Interrupted)"
  | wouldBlock => "Kind(WouldBlock)"
  | other text => "Custom \x7b kind: Other, error: " ++ Quoted.quote text ++ " \x7d"

/-- A reply as a log record identifies it. -/
def Reply.identifier : Reply → String
  | accepted => "Accepted"
  | done => "Done"

/-- A failure as a log record identifies it. -/
def CommandFailure.identifier : CommandFailure → String
  | badSyntax => "Syntax"
  | invalidValue => "InvalidValue"
  | rejected status => "Rejected(" ++ status.identifier ++ ")"
  | unknownCommand keyword => "UnknownCommand \x7b keyword: " ++ Quoted.quote keyword ++ " \x7d"
  | output cause => "Output(" ++ cause.identifier ++ ")"

/-- What became of a command, as a log record identifies it. -/
def identifyAnswer : Except CommandFailure Reply → String
  | .ok reply => "Ok(" ++ reply.identifier ++ ")"
  | .error failure => "Err(" ++ failure.identifier ++ ")"

end DeviceConsole
