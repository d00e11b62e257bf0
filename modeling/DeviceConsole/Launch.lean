import DeviceConsole.Engine.Offline
import DeviceConsole.Log.Filter
import DeviceConsole.Log.Line
import DeviceConsole.Startup

/-!
# Launching the console

A launch is a start and a run as one process: it ends with a status, and when a stage fails
with a complaint.  A command line that cannot be read counts as a request for help, so that
launch ends well.

Main results:

- Theorem {lit}`failed_status`: only a failure to load the settings ends well.
-/

namespace DeviceConsole

/-- The status with which a launch ends. -/
inductive ExitStatus where
  | success
  | failure
deriving DecidableEq, Repr

/-- The number of a status. -/
def ExitStatus.code : ExitStatus → Nat
  | success => 0
  | failure => 1

/-- How a launch ends. -/
structure LaunchEnd where
  status : ExitStatus
  /-- What is written beside the log, if anything. -/
  complaint : Option String
deriving DecidableEq, Repr

namespace LaunchEnd

/-- The words in front of every complaint. -/
def herald : String :=
  "fleet-console: "

/-- The end of a launch in which nothing failed. -/
def served : LaunchEnd :=
  ⟨.success, none⟩

/-- The end of a launch in which a stage failed. -/
def failed (cause : StartFailure) : LaunchEnd where
  status :=
    match cause with
    | .configuration _ => .success
    | _ => .failure
  complaint :=
    let message := match cause with
      | .configuration cause => cause.message
      | _ => cause.message
    some (String.ofList (trimRight (herald ++ message).toList) ++ "\n")

/-- Only a failure to load the settings ends well. -/
theorem failed_status (cause : StartFailure) :
    (failed cause).status = .success ↔ ∃ load, cause = .configuration load := by
  cases cause <;> simp [failed]

end LaunchEnd

namespace Launch

variable {ω : Type}

/-- Sets up the log: the filter of the settings must be one. -/
def installLog (settings : Settings) : Except LogSetupFailure Unit :=
  match LogFilter.parse settings.filterText with
  | .ok _ => .ok ()
  | .error fault => .error (.filter fault.message)

/-- The start with the offline engine, up to the point where the console begins to serve. -/
def ready (S : Setting OfflineEngine ω) (services : StartServices) :
    Startup.Part OfflineEngine ω Started := do
  let started ← Startup.bootstrap S services
  Startup.registerInterrupt services
  Startup.also do
    Activity.modify fun session => { session with engine := ⟨started.settings.block⟩ }
    Session.log S (.consoleListening started.address)
  Startup.watch services
  return started

/-- The start and up to {lit}`rounds` rounds.  The value is why the console stopped; there is
none while it still runs. -/
def stages (S : Setting OfflineEngine ω) (services : StartServices) (rounds : Nat) :
    Startup.Part OfflineEngine ω (Option Termination) := do
  let _ ← ready S services
  match ← Startup.also (Reactor.run S rounds) with
  | none => return none
  | some reason =>
      Startup.also (Session.log S (.consoleStopped reason))
      return some reason

/-- A whole launch of up to {lit}`rounds` rounds.  The value is how it ended; there is none
while the console still runs. -/
def run (S : Setting OfflineEngine ω) (services : StartServices) (rounds : Nat) :
    Activity (Session OfflineEngine ω) (Option LaunchEnd) := do
  match ← (stages S services rounds).run with
  | .error cause => return some (.failed cause)
  | .ok none => return none
  | .ok (some _) => return some .served

end Launch

/-- The records of a trace since the log was set up. -/
def Trace.records (trace : Trace) : List LogRecord :=
  let since := trace.dropWhile fun
    | .entered .socket => false
    | _ => true
  since.filterMap fun
    | .logged diagnostic => some diagnostic.record
    | .reported report => some report.record
    | _ => none

/-- What the log of a trace says under some settings: the records that their filter keeps, in
their format. -/
def Trace.logText (trace : Trace) (settings : Settings) : String :=
  match LogFilter.parse settings.filterText with
  | .ok filter =>
      String.join <| (trace.records.filter filter.keeps).map fun record =>
        settings.format.line record ++ "\n"
  | .error _ => ""

end DeviceConsole
