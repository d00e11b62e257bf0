import DeviceConsole.Path

/-!
# Operations

The requests that the console can submit, by what they do to a device, and the shapes of
path that each may target.

Main results:

- Theorem {lit}`accepts_create_iff`, {lit}`accepts_delete_iff` and
  {lit}`accepts_execute_iff`: the three restricted operations, by depth.
-/

namespace DeviceConsole

/-- What a request does to a device. -/
inductive Operation where
  /-- Read a value. -/
  | read
  /-- Discover attributes and paths below. -/
  | discover
  /-- Replace or partially update a value. -/
  | write
  /-- Set or clear observation attributes. -/
  | writeAttributes
  /-- Execute a resource. -/
  | execute
  /-- Create an object instance. -/
  | create
  /-- Delete an object instance. -/
  | delete
  /-- Start observing. -/
  | observe
  /-- Stop observing. -/
  | cancelObserve
deriving DecidableEq, Repr

namespace Operation

/-- All operations, in the order in which they are declared. -/
def all : List Operation :=
  [read, discover, write, writeAttributes, execute, create, delete, observe, cancelObserve]

/-- The operation's name. -/
def name : Operation → String
  | read => "read"
  | discover => "discover"
  | write => "write"
  | writeAttributes => "write-attributes"
  | execute => "execute"
  | create => "create"
  | delete => "delete"
  | observe => "observe"
  | cancelObserve => "cancel-observe"

/-- Whether the operation may target a path.  Creation targets no resource, deletion exactly
an object instance, and execution a resource but none of its instances. -/
def accepts (operation : Operation) (path : Path) : Bool :=
  match operation with
  | create => path.resourceId?.isNone
  | delete => path.instanceId?.isSome && path.resourceId?.isNone
  | execute => path.resourceId?.isSome && path.resourceInstanceId?.isNone
  | read | discover | write | writeAttributes | observe | cancelObserve => true

/-- Every operation is listed. -/
theorem mem_all (operation : Operation) : operation ∈ all := by
  cases operation <;> decide

theorem accepts_create_iff (path : Path) : create.accepts path ↔ path.depth ≤ 2 := by
  cases path <;> simp [accepts, Path.resourceId?, Path.depth, Path.levels]

theorem accepts_delete_iff (path : Path) : delete.accepts path ↔ path.depth = 2 := by
  cases path <;>
    simp [accepts, Path.instanceId?, Path.resourceId?, Path.depth, Path.levels]

theorem accepts_execute_iff (path : Path) : execute.accepts path ↔ path.depth = 3 := by
  cases path <;>
    simp [accepts, Path.resourceId?, Path.resourceInstanceId?, Path.depth, Path.levels]

end Operation

end DeviceConsole
