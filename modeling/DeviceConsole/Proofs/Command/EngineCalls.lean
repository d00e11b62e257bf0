import DeviceConsole.Dispatch
import DeviceConsole.Proofs.Command.Grammar
import DeviceConsole.Proofs.Session.Moves

/-!
# What a line asks of the engine

The engine hears of a line only when the line is well formed to its last word.  A line whose
request is complete as it stands submits it and does nothing else; a write or a creation
has its text decoded first, and then submits at most one request.

Main results:

- Theorem {lit}`execute_calls`: what carrying out a command asks of the engine.
- Theorem {lit}`dispatch_calls`: what a line asks of the engine, by its command.
- Theorem {lit}`dispatch_calls_iff_engineLine`: the engine is called for the lines of the
  grammar only, and as their commands say.
-/

namespace DeviceConsole

variable {η ω : Type}

/-! ## Calls of single activities -/

namespace Session

variable (S : Setting η ω) (session : Session η ω)

theorem log_calls (diagnostic : Diagnostic) : (log S diagnostic session).events.calls = [] := by
  unfold log
  split <;> rfl

theorem attend_calls : (attend S session).events.calls = [] := by
  cases harrived : (S.host.interrupt session.host).1 <;>
    simp [attend, raise, harrived, Trace.calls]

theorem attend_engine : (attend S session).session.engine = session.engine := by
  obtain ⟨host, token, hattend⟩ := Travels.attend_session S session
  rw [hattend]

theorem note_calls (call : EngineCall) : (note S (.called call) session).events.calls = [call] := by
  rw [note, Activity.bind_events, Trace.calls_append, attend_calls]
  rfl

theorem note_engine (event : Event) : (note S event session).session.engine = session.engine :=
  attend_engine S session

theorem write_calls (text : String) : (write S text session).events.calls = [] := by
  rw [write, Activity.bind_events, Trace.calls_append, attend_calls]
  rfl

theorem heedAll_calls (remarks : List Remark) : (heedAll S remarks session).events.calls = [] := by
  induction remarks generalizing session with
  | nil => rfl
  | cons remark rest ih =>
      rw [heedAll, Activity.bind_events, Trace.calls_append, ih, List.append_nil]
      cases remark with
      | raise reason => rfl
      | log diagnostic => exact log_calls S session diagnostic

theorem decode_calls (path : Path) (text : String) :
    (decode S path text session).events.calls = [.decode path text] := by
  rw [decode, Activity.bind_events, Trace.calls_append, note_calls, Activity.get_bind_run]
  simp only [Activity.bind_events, Trace.calls_append, heedAll_calls]
  rfl

/-- The text is decoded by the engine as it was. -/
theorem decode_value (path : Path) (text : String) :
    (decode S path text session).value = S.engine.decode session.engine path text := by
  rw [decode, Activity.bind_value, Activity.get_bind_run, note_engine]
  rfl

theorem submit_calls (device : DeviceId) (request : Request) :
    (submit S device request session).events.calls = [.submit device request] := by
  rw [submit, Activity.bind_events, Trace.calls_append, note_calls, Activity.get_bind_run]
  simp only [Activity.bind_events, Trace.calls_append, heedAll_calls]
  rfl

end Session

/-! ## Calls of a command -/

namespace Command

variable (S : Setting η ω) (session : Session η ω)

/-- The requests that a payload leads to: one, or none when there is no payload. -/
def requestCalls {α : Type} (device : DeviceId) (request : α → Request) :
    Except CommandFailure α → List EngineCall
  | .ok payload => [.submit device (request payload)]
  | .error _ => []

/-- What a command asks of an engine. -/
def engineCalls (engine : η) : Command → List EngineCall
  | submit device request => [.submit device request]
  | write device path text isPartial =>
      .decode path text ::
        requestCalls device (fun payload => .write path payload isPartial)
          (writePayload (S.engine.decode engine path text) text isPartial)
  | create device path text =>
      .decode path text ::
        requestCalls device (createRequest path)
          (createRecords S.fallbacks (S.engine.decode engine path text) path text)
  | _ => []

/-- What a command can submit: the request that was typed, a write with its payload, or a creation
with its records. -/
inductive Submits (engine : η) : Command → DeviceId → Request → Prop where
  | typed {device : DeviceId} {request : Request} :
      Submits engine (.submit device request) device request
  | write {device : DeviceId} {path : Path} {text : String} {isPartial : Bool} {payload : Payload}
      (hpayload : writePayload (S.engine.decode engine path text) text isPartial = .ok payload) :
      Submits engine (.write device path text isPartial) device (.write path payload isPartial)
  | create {device : DeviceId} {path target : Path} {text : String} {records made : List Record}
      (hrecords : createRecords S.fallbacks (S.engine.decode engine path text) path text =
        .ok records)
      (hmade : createRequest path records = .create target made) :
      Submits engine (.create device path text) device (.create target made)

theorem submits_of_mem {engine : η} {command : Command} {device : DeviceId} {request : Request}
    (h : .submit device request ∈ command.engineCalls S engine) :
    command.Submits S engine device request := by
  cases command with
  | submit target typed =>
      simp only [engineCalls, List.mem_singleton, EngineCall.submit.injEq] at h
      obtain ⟨rfl, rfl⟩ := h
      exact .typed
  | write target path text isPartial =>
      rw [engineCalls, List.mem_cons, or_iff_right (by simp)] at h
      cases hpayload : writePayload (S.engine.decode engine path text) text isPartial with
      | error failure => simp [hpayload, requestCalls] at h
      | ok payload =>
          simp only [hpayload, requestCalls, List.mem_singleton, EngineCall.submit.injEq] at h
          obtain ⟨rfl, rfl⟩ := h
          exact .write hpayload
  | create target path text =>
      rw [engineCalls, List.mem_cons, or_iff_right (by simp)] at h
      cases hrecords : createRecords S.fallbacks (S.engine.decode engine path text) path text with
      | error failure => simp [hrecords, requestCalls] at h
      | ok records =>
          simp only [hrecords, requestCalls, List.mem_singleton, EngineCall.submit.injEq] at h
          obtain ⟨rfl, rfl⟩ := h
          cases path <;> exact .create hrecords rfl
  | _ => simp [engineCalls] at h

theorem submitted_calls (device : DeviceId) (request : Request) :
    (submitted S device request session).events.calls = [.submit device request] := by
  rw [submitted, Activity.bind_events, Trace.calls_append, Session.submit_calls]
  cases (Session.submit S device request session).value <;> rfl

theorem shown_calls (text : String) : (shown S text session).events.calls = [] := by
  rw [shown, Activity.bind_events, Trace.calls_append, Session.write_calls]
  cases (Session.write S text session).value <;> rfl

/-- What carrying out a command asks of the engine. -/
theorem execute_calls (command : Command) :
    (command.execute S session).events.calls = command.engineCalls S session.engine := by
  cases command with
  | list => exact shown_calls S session _
  | overview => exact shown_calls S session _
  | explain entry => exact shown_calls S session _
  | submit device request => exact submitted_calls S session device request
  | write device path text isPartial =>
      rw [execute, Activity.bind_events, Trace.calls_append, Session.decode_calls,
        Session.decode_value, engineCalls]
      cases writePayload (S.engine.decode session.engine path text) text isPartial with
      | ok payload => exact congrArg (_ :: ·) (submitted_calls S _ device _)
      | error failure => rfl
  | create device path text =>
      rw [execute, Activity.bind_events, Trace.calls_append, Session.decode_calls,
        Session.decode_value, engineCalls]
      cases createRecords S.fallbacks (S.engine.decode session.engine path text) path text with
      | ok records => exact congrArg (_ :: ·) (submitted_calls S _ device _)
      | error failure => rfl
  | quit => rfl

/-- Exactly the commands that ask something of the engine call it. -/
theorem engineCalls_ne_nil_iff (engine : η) (command : Command) :
    command.engineCalls S engine ≠ [] ↔ command.asksEngine := by
  cases command <;> simp [engineCalls, asksEngine]

end Command

/-! ## Calls of a line -/

section Dispatch

variable (S : Setting η ω) (session : Session η ω)

theorem showAnswer_calls (answer : Except CommandFailure Reply) :
    (showAnswer S answer session).events.calls = [] := by
  rcases answer with failure | reply
  · cases failure with
    | output cause => rfl
    | _ => exact Session.write_calls S session _
  · cases reply with
    | accepted => exact Session.write_calls S session _
    | done => rfl

theorem attempt_calls (command : Except CommandFailure Command) :
    (Command.attempt S command session).events.calls =
      match command with
      | .ok command => command.engineCalls S session.engine
      | .error _ => [] := by
  cases command with
  | ok command => exact Command.execute_calls S session command
  | error failure => rfl

/-- What a line asks of the engine is what its command does, when it has one. -/
theorem dispatch_calls (line : List Char) :
    (dispatch S line session).events.calls =
      match (Command.ofLine? line).map (·.command) with
      | some (.ok command) => command.engineCalls S session.engine
      | _ => [] := by
  unfold dispatch
  cases Command.ofLine? line with
  | none => rfl
  | some typed =>
      simp only [Activity.bind_events, Trace.calls_append, attempt_calls, Session.log_calls,
        showAnswer_calls, List.append_nil, Option.map_some]
      cases typed.command <;> rfl

/-- A line of the grammar asks of the engine what its command does. -/
theorem dispatch_calls_of_engineLine {line : List Char} {command : Command}
    (hline : EngineLine (Words.ofLine line) command) :
    (dispatch S line session).events.calls = command.engineCalls S session.engine := by
  obtain ⟨typed, htyped, hok, -⟩ := Command.engineLine_iff.mpr hline
  rw [dispatch_calls, htyped, Option.map_some, hok]

/-- A line that asks something of the engine is one of the grammar. -/
theorem exists_engineLine_of_calls {line : List Char}
    (hcalls : (dispatch S line session).events.calls ≠ []) :
    ∃ command, EngineLine (Words.ofLine line) command := by
  rw [dispatch_calls] at hcalls
  split at hcalls
  · rename_i command hfound
    obtain ⟨typed, htyped, hok⟩ := Option.map_eq_some_iff.mp hfound
    have hasks := (Command.engineCalls_ne_nil_iff S session.engine command).mp hcalls
    exact ⟨command, Command.engineLine_iff.mp ⟨typed, htyped, hok, hasks⟩⟩
  · exact absurd rfl hcalls

/-- What the engine is asked, it is asked for the command of the line. -/
theorem exists_engineLine_of_mem_calls {line : List Char} {call : EngineCall}
    (hcall : call ∈ (dispatch S line session).events.calls) :
    ∃ command, EngineLine (Words.ofLine line) command ∧
      call ∈ command.engineCalls S session.engine := by
  obtain ⟨command, hline⟩ := exists_engineLine_of_calls S session (List.ne_nil_of_mem hcall)
  rw [dispatch_calls_of_engineLine S session hline] at hcall
  exact ⟨command, hline, hcall⟩

/-- The engine is called exactly for the lines of the grammar, and as their commands say. -/
theorem dispatch_calls_iff_engineLine (line : List Char) :
    ((dispatch S line session).events.calls ≠ [] ↔
      ∃ command, EngineLine (Words.ofLine line) command) ∧
    ∀ command, EngineLine (Words.ofLine line) command →
      (dispatch S line session).events.calls = command.engineCalls S session.engine := by
  refine ⟨⟨exists_engineLine_of_calls S session, ?_⟩,
    fun command => dispatch_calls_of_engineLine S session⟩
  rintro ⟨command, hline⟩
  rw [dispatch_calls_of_engineLine S session hline, Command.engineCalls_ne_nil_iff]
  exact Command.asksEngine_of_engineLine hline

end Dispatch

end DeviceConsole
