import DeviceConsole.Engine

/-!
# Scripted engines

A rehearsal replaces the protocol engine by one that follows a script: what it does at its
first step, its second step, at each datagram and each accepted request is written down
beforehand.  When a part of the script has run out, the engine does nothing more there.

Main results:

- Definition {lit}`ScriptedEngine.submit`: when a scripted engine refuses a request.
- Definition {lit}`ScriptedEngine.engine`: the engine that follows a script.
-/

namespace DeviceConsole

/-- One thing that a scripted engine does. -/
inductive ScriptAction where
  /-- Queue an outcome. -/
  | queue (outcome : Outcome)
  /-- Register a device. -/
  | insert (device : Device)
  /-- Remove a device. -/
  | remove (device : DeviceId)
  /-- Give a device a new lifetime. -/
  | touch (device : DeviceId) (lifetime : UInt32)
  /-- Send a datagram; when that fails and it is set so, the rest is left out. -/
  | send (connection : ConnectionId) (datagram : List UInt8) (propagate : Bool)
  /-- Ask the console to stop. -/
  | raise (reason : Termination)

/-- What a scripted engine does during one step, and how the step ends. -/
structure ScriptStep where
  actions : List ScriptAction
  answer : Except StepFailure Duration

/-- The state of a scripted engine: its registry and queue, and what is left of the script. -/
structure ScriptedEngine where
  registry : Registry
  queue : List Outcome
  records : List (String × List Record)
  refusals : List (DeviceId × Status)
  steps : List ScriptStep
  packets : List (List ScriptAction)
  submits : List (List ScriptAction)
  closing : List ScriptAction

namespace ScriptedEngine

/-- How long the console may wait after a step that the script does not describe. -/
def defaultWait : Duration :=
  .ofMilliseconds 1000

/-- An engine with nothing registered, queued or scripted. -/
def idle : ScriptedEngine where
  registry := .empty
  queue := []
  records := []
  refusals := []
  steps := []
  packets := []
  submits := []
  closing := []

/-- The engine after an action that needs neither the link nor the console. -/
def change (state : ScriptedEngine) : ScriptAction → ScriptedEngine
  | .queue outcome => { state with queue := state.queue ++ [outcome] }
  | .insert device => { state with registry := state.registry.insert device }
  | .remove device => { state with registry := state.registry.erase device }
  | .touch device lifetime => { state with registry := state.registry.setLifetime device lifetime }
  | .send _ _ _ => state
  | .raise _ => state

/-- Follows a part of the script.  The value is the engine after it and the failure that cut
it short, if one did. -/
def perform (state : ScriptedEngine) :
    List ScriptAction → Dialogue (ScriptedEngine × Option LinkFailure)
  | [] => .finish (state, none)
  | .send connection datagram propagate :: rest =>
      .send connection datagram fun
        | .ok () => state.perform rest
        | .error failure =>
            if propagate then .finish (state, some failure) else state.perform rest
  | .raise reason :: rest => .remark (.raise reason) (state.perform rest)
  | action :: rest => (state.change action).perform rest

/-- Follows a part of the script that has no link to send over. -/
def performUnlinked (state : ScriptedEngine) : List ScriptAction → ScriptedEngine × List Remark
  | [] => (state, [])
  | .raise reason :: rest =>
      let (state, remarks) := state.performUnlinked rest
      (state, .raise reason :: remarks)
  | action :: rest => (state.change action).performUnlinked rest

/-- A step: the next part of the script, and the answer that it gives unless a datagram could
not be sent. -/
def step (state : ScriptedEngine) : Dialogue (ScriptedEngine × Except StepFailure Duration) :=
  match state.steps with
  | [] => .finish (state, .ok defaultWait)
  | next :: rest =>
      (perform { state with steps := rest } next.actions).bind fun (state, failure) =>
        match failure with
        | some failure => .finish (state, .error (.link failure))
        | none => .finish (state, next.answer)

/-- A datagram: the next part of the script. -/
def handlePacket (state : ScriptedEngine) : Dialogue ScriptedEngine :=
  match state.packets with
  | [] => .finish state
  | next :: rest => (perform { state with packets := rest } next).bind fun (state, _) =>
      .finish state

/-- The records that the script gives for a text at a path, or for the text anywhere. -/
def decode (state : ScriptedEngine) (path : Path) (text : String) : List Record :=
  ((state.records.lookup (path.text ++ " " ++ text)).or (state.records.lookup text)).getD []

/-- Accepts a request: the next part of the script. -/
def accept (state : ScriptedEngine) : Answer ScriptedEngine (Except Status Unit) :=
  match state.submits with
  | [] => ⟨.ok (), state, []⟩
  | next :: rest =>
      let (state, remarks) := performUnlinked { state with submits := rest } next
      ⟨.ok (), state, remarks⟩

/-- Refuses the requests that the script refuses and those to devices that are not
registered, and accepts all others. -/
def submit (state : ScriptedEngine) (device : DeviceId) :
    Answer ScriptedEngine (Except Status Unit) :=
  match state.refusals.lookup device with
  | some status => ⟨.error status, state, []⟩
  | none =>
      if state.registry.contains device then state.accept
      else ⟨.error .notFound, state, []⟩

/-- Takes the oldest outcome off the queue. -/
def nextOutcome (state : ScriptedEngine) : Answer ScriptedEngine (Option Outcome) :=
  match state.queue with
  | [] => ⟨none, state, []⟩
  | outcome :: rest => ⟨some outcome, { state with queue := rest }, []⟩

/-- The engine that follows its script. -/
def engine : Engine ScriptedEngine where
  registry := registry
  step := step
  handlePacket state _ _ := handlePacket state
  decode := decode
  submit state device _ := submit state device
  nextOutcome := nextOutcome
  close state := (perform state state.closing).bind fun _ => .finish ()

/-- How many outcomes a list of actions queues. -/
def queued (actions : List ScriptAction) : Nat :=
  actions.countP fun
    | .queue _ => true
    | _ => false

/-- A bound on the outcomes that can ever be in the queue. -/
def outcomeBound (state : ScriptedEngine) : Nat :=
  let scripts := state.steps.map (·.actions) ++ state.packets ++ state.submits
  state.queue.length + queued scripts.flatten

end ScriptedEngine

end DeviceConsole
