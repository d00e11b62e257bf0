import DeviceConsole.Engine

/-!
# The offline engine

Without a protocol there are no devices: the registry stays empty, datagrams are dropped
and every request is refused, because its device cannot be found.

Main results:

- Definition {lit}`OfflineEngine.engine`: no device is ever registered.
- Theorem {lit}`submit_value`: every request is refused.
-/

namespace DeviceConsole

/-- The state of the offline engine: the block size that it was given. -/
structure OfflineEngine where
  blockSize : UInt16
deriving DecidableEq, Repr

namespace OfflineEngine

/-- How long the console may wait between two steps. -/
def idleWait : Duration :=
  .ofMilliseconds 60000

/-- The engine that has no protocol. -/
def engine : Engine OfflineEngine where
  registry _ := .empty
  step state := .finish (state, .ok idleWait)
  handlePacket state connection bytes :=
    .remark (.log (.datagramDiscarded connection bytes.length)) (.finish state)
  decode _ _ _ := []
  submit state device request :=
    { value := .error .notFound
      engine := state
      remarks := [.log (.requestRefused device request.operation request.path)] }
  nextOutcome state := ⟨none, state, []⟩
  close state := .remark (.log (.offlineEngineClosed state.blockSize)) (.finish ())

/-- Every request is refused. -/
@[simp]
theorem submit_value (state : OfflineEngine) (device : DeviceId) (request : Request) :
    (engine.submit state device request).value = .error .notFound :=
  rfl

end OfflineEngine

end DeviceConsole
