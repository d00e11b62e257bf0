import DeviceConsole.Command.Arguments
import DeviceConsole.Command.Table

/-!
# Commands

A command is what a well-formed line asks for.  A line becomes a command only when all of
its arguments are read and nothing is left, so that nothing is asked of the engine on
behalf of a malformed line.

Main results:

- Theorem {lit}`ofLine?_eq_none_iff`: exactly the blank lines have no command.
-/

namespace DeviceConsole

/-- What a well-formed line asks for. -/
inductive Command where
  /-- Show the registered devices. -/
  | list
  /-- Show the overview of all commands. -/
  | overview
  /-- Explain one command. -/
  | explain (entry : CommandEntry)
  /-- Submit a request that is complete as it stands. -/
  | submit (device : DeviceId) (request : Request)
  /-- Submit a write whose payload the engine has yet to decode. -/
  | write (device : DeviceId) (path : Path) (text : String) (isPartial : Bool)
  /-- Submit a creation whose payload the engine has yet to decode. -/
  | create (device : DeviceId) (path : Path) (text : String)
  /-- Stop the console. -/
  | quit

namespace Command

open ArgumentReader

/-! ## Argument forms -/

/-- Reads the arguments of a command that takes none. -/
def bare (command : Command) : ArgumentReader Command := do
  finish
  return command

/-- Reads a device and a path for a request that needs nothing else. -/
def readOnPath (kind : PathRequest) : ArgumentReader Command := do
  let device ← device
  let path ← path kind.operation
  finish
  return submit device (.onPath kind path)

/-- Reads a device, a path and a value to write. -/
def readWrite (isPartial : Bool) : ArgumentReader Command := do
  let device ← device
  let path ← path .write
  let text ← required
  finish
  return write device path (String.ofList text) isPartial

/-- Reads a device, a path and two periods. -/
def readPeriods : ArgumentReader Command := do
  let device ← device
  let path ← path .writeAttributes
  let min ← period
  let max ← period
  finish
  return submit device (.writeAttributes path (.periods min max))

/-- Reads a device, a path, two thresholds and perhaps a step. -/
def readThresholds : ArgumentReader Command := do
  let device ← device
  let path ← path .writeAttributes
  let lessThan ← threshold
  let greaterThan ← threshold
  let step ← match ← optional with
    | none => pure none
    | some word => some <$> valueOf (Binary64.finite? word)
  finish
  return submit device (.writeAttributes path (.thresholds lessThan greaterThan step))

/-- Reads a device and a path whose attributes are cleared. -/
def readClear : ArgumentReader Command := do
  let device ← device
  let path ← path .writeAttributes
  finish
  return submit device (.writeAttributes path .clear)

/-- Reads a device, a path and perhaps an argument. -/
def readExecute : ArgumentReader Command := do
  let device ← device
  let path ← path .execute
  let argument ← optional
  finish
  return submit device (.execute path (argument.map String.ofList))

/-- Reads a device, a path and the value of a new instance. -/
def readCreate : ArgumentReader Command := do
  let device ← device
  let path ← path .create
  let text ← required
  finish
  return create device path (String.ofList text)

/-- Reads the arguments of a form.  A form that needs a path parameter accepts nothing
without one, and a write is partial only when its parameter says so. -/
def readForm (form : CommandForm) (parameter : CommandParameter) : ArgumentReader Command :=
  match form with
  | .list => bare list
  | .onPath =>
      match parameter with
      | .path kind => readOnPath kind
      | _ => throw .badSyntax
  | .write => readWrite (parameter == .write true)
  | .periods => readPeriods
  | .thresholds => readThresholds
  | .clear => readClear
  | .execute => readExecute
  | .create => readCreate
  | .quit => bare quit

/-- Reads the argument of a question for help. -/
def readHelp : ArgumentReader Command := do
  let topic ← optional
  finish
  match topic with
  | none => return overview
  | some word =>
      match CommandEntry.find? (String.ofList word) with
      | some entry => return explain entry
      | none => throw (.unknownCommand (String.ofList word))

/-! ## Whole lines -/

/-- The command of a keyword and the text behind it. -/
def ofKeyword (keyword : String) (arguments : List Char) : Except CommandFailure Command :=
  if keyword = "help" then
    readHelp.read arguments
  else
    match CommandEntry.find? keyword with
    | some entry => (readForm entry.form entry.parameter).read arguments
    | none => .error (.unknownCommand keyword)

/-- A line that is not blank: its keyword and what it asks for. -/
structure Typed where
  keyword : String
  command : Except CommandFailure Command

/-- What a line asks for; a blank line asks for nothing. -/
def ofLine? (line : List Char) : Option Typed :=
  (Words.next? line).map fun (word, arguments) =>
    { keyword := String.ofList word
      command := ofKeyword (String.ofList word) arguments }

/-- Exactly the blank lines have no command. -/
theorem ofLine?_eq_none_iff (line : List Char) : ofLine? line = none ↔ Words.atEnd line := by
  simp [ofLine?, Words.next?_eq_none_iff]

end Command

end DeviceConsole
