import DeviceConsole.Operation
import DeviceConsole.Record
import DeviceConsole.AttributeUpdate
import DeviceConsole.Device
import DeviceConsole.Status
import DeviceConsole.MediaFormat

/-!
# Requests and outcomes

The console hands requests to the protocol engine and prints the outcomes that the engine
queues.  A request performs one operation on one path.

Main results:

- Definition {lit}`Request`: what the console may ask of a device.
- Definition {lit}`Outcome`: what the engine has to tell about a request.
-/

namespace DeviceConsole

/-- The requests that need nothing beyond a path. -/
inductive PathRequest where
  | read
  | discover
  | delete
  | observe
  | cancelObserve
deriving DecidableEq, Repr

namespace PathRequest

/-- The operation that the request performs. -/
def operation : PathRequest → Operation
  | read => .read
  | discover => .discover
  | delete => .delete
  | observe => .observe
  | cancelObserve => .cancelObserve

/-- The request as a log record identifies it. -/
def identifier : PathRequest → String
  | read => "Read"
  | discover => "Discover"
  | delete => "Delete"
  | observe => "Observe"
  | cancelObserve => "CancelObserve"

end PathRequest

/-- A request to one device. -/
inductive Request where
  /-- A request that needs nothing beyond a path. -/
  | onPath (kind : PathRequest) (path : Path)
  /-- Replace, or partially update, a value. -/
  | write (path : Path) (payload : Payload) (isPartial : Bool)
  /-- Set or clear observation attributes. -/
  | writeAttributes (path : Path) (update : AttributeUpdate)
  /-- Execute a resource with an optional argument. -/
  | execute (path : Path) (argument : Option String)
  /-- Create an object instance from records. -/
  | create (path : Path) (records : List Record)

namespace Request

/-- The operation that the request performs. -/
def operation : Request → Operation
  | onPath kind _ => kind.operation
  | write _ _ _ => .write
  | writeAttributes _ _ => .writeAttributes
  | execute _ _ => .execute
  | create _ _ => .create

/-- The path that the request targets. -/
def path : Request → Path
  | onPath _ path => path
  | write path _ _ => path
  | writeAttributes path _ => path
  | execute path _ => path
  | create path _ => path

end Request

/-- Something that the engine has to tell the operator. -/
inductive Outcome where
  /-- A submitted request is complete. -/
  | result (device : DeviceId) (path : Path) (status : Status) (format : MediaFormat)
      (payload : List UInt8)
  /-- An observed path has a new value. -/
  | notification (device : DeviceId) (path : Path) (count : UInt32) (format : MediaFormat)
      (payload : List UInt8)
  /-- A device registered, updated its registration or left. -/
  | registration (device : DeviceId) (status : Status)
deriving DecidableEq, Repr

end DeviceConsole
