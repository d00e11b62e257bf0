/-!
# Termination

The console stops because the operator quits or closes the input, or because an interrupt
arrives.  The reason is stored when it is raised; a later reason takes the place of an
earlier one, and nothing takes it back.

Main results:

- Theorem {lit}`isSome_raise`: a raised token stays raised.
-/

namespace DeviceConsole

/-- Why the console stops. -/
inductive Termination where
  /-- The operator quit or closed the input. -/
  | quit
  /-- An interrupt arrived. -/
  | interrupted
deriving DecidableEq, Repr

/-- The reason as it is identified. -/
def Termination.identifier : Termination → String
  | quit => "Quit"
  | interrupted => "Interrupted"

/-- The place where the reason to stop is stored, empty while the console runs. -/
abbrev TerminationToken :=
  Option Termination

namespace TerminationToken

/-- The token of a console that runs. -/
def running : TerminationToken :=
  none

/-- The token after a reason is raised. -/
def raise (_token : TerminationToken) (reason : Termination) : TerminationToken :=
  some reason

/-- A raised token stays raised. -/
@[simp]
theorem isSome_raise (token : TerminationToken) (reason : Termination) :
    (token.raise reason).isSome :=
  rfl

end TerminationToken

end DeviceConsole
