import DeviceConsole.Duration
import DeviceConsole.Log.Record
import DeviceConsole.Registry
import DeviceConsole.Request
import DeviceConsole.Termination

/-!
# Protocol engines

An engine speaks the protocol to the devices.  The console asks it to step, hands it
datagrams and requests, and takes outcomes from it.  During a step, a datagram or its
close the engine may send datagrams of its own and act on whether each was sent, so such a
call is a dialogue: a finite tree of what the engine does, branching on the replies.

Main results:

- Theorem {lit}`bind_finish` and {lit}`bind_assoc`: dialogues follow each other like
  programs.
-/

namespace DeviceConsole

/-- Something that an engine does on the side and that has no reply. -/
inductive Remark where
  /-- Ask the console to stop. -/
  | raise (reason : Termination)
  /-- Tell the log something. -/
  | log (diagnostic : Diagnostic)

/-- What an engine does while it has the console's attention. -/
inductive Dialogue (α : Type) where
  /-- The call is over. -/
  | finish (value : α)
  /-- Something on the side, and then the rest. -/
  | remark (remark : Remark) (rest : Dialogue α)
  /-- A datagram to a connection; the rest depends on whether it was sent. -/
  | send (connection : ConnectionId) (datagram : List UInt8)
      (resume : Except LinkFailure Unit → Dialogue α)

namespace Dialogue

/-- A dialogue and then another that depends on the value of the first. -/
def bind {α β : Type} : Dialogue α → (α → Dialogue β) → Dialogue β
  | finish value, next => next value
  | remark said rest, next => remark said (rest.bind next)
  | send connection datagram resume, next =>
      send connection datagram fun reply => (resume reply).bind next

instance : Monad Dialogue where
  pure := finish
  bind := bind

@[simp]
theorem bind_finish {α β : Type} (value : α) (next : α → Dialogue β) :
    (finish value).bind next = next value :=
  rfl

/-- Dialogues in a row may be grouped from either end. -/
theorem bind_assoc {α β γ : Type} (dialogue : Dialogue α) (second : α → Dialogue β)
    (third : β → Dialogue γ) :
    (dialogue.bind second).bind third = dialogue.bind fun value => (second value).bind third := by
  induction dialogue with
  | finish value => rfl
  | remark said rest ih => simp [bind, ih]
  | send connection datagram resume ih => simp [bind, ih]

end Dialogue

/-- The answer to a call during which the engine cannot send: a value, the engine after the
call, and what it did on the side. -/
structure Answer (η α : Type) where
  value : α
  engine : η
  remarks : List Remark

/-- A protocol engine with states of type {lit}`η`. -/
structure Engine (η : Type) where
  /-- The devices that are registered. -/
  registry : η → Registry
  /-- Periodic work; the value is how long the console may wait before the next step. -/
  step : η → Dialogue (η × Except StepFailure Duration)
  /-- Takes a datagram that came over a connection. -/
  handlePacket : η → Connection → List UInt8 → Dialogue η
  /-- The records that a text stands for at a path; none when the text is not structured. -/
  decode : η → Path → String → List Record
  /-- What the engine does on the side while it decodes a text. -/
  decodeRemarks : η → Path → String → List Remark := fun _ _ _ => []
  /-- Takes a request for a device, or refuses it with a status. -/
  submit : η → DeviceId → Request → Answer η (Except Status Unit)
  /-- Takes the oldest outcome off the queue. -/
  nextOutcome : η → Answer η (Option Outcome)
  /-- The last call, in which the engine lets go of everything. -/
  close : η → Dialogue Unit

end DeviceConsole
