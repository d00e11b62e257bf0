import DeviceConsole.Proofs.Command.EngineCalls
import DeviceConsole.Proofs.Session.Prompt
import DeviceConsole.Proofs.Session.Screens

/-!
# What becomes of a line

A line comes to one of four things: nothing is said about it, a text is shown for it, it is
not carried out, or one request is submitted for it.  Which one it is depends on the line, the
engine and the payload conventions only.  What is written and what the value is then follow:
one text at most is written, and when the screen does not take all of it, that is the value.

Main results:

- Definition {lit}`handlingOf`: what a line comes to.
- Theorem {lit}`dispatch_handled`: carrying out a line does what the line comes to.
-/

namespace DeviceConsole

variable {η ω α : Type}

/-! ## Requests that were submitted -/

/-- A request that was submitted, and its answer. -/
structure Submission where
  device : DeviceId
  request : Request
  answer : Except Status Unit

/-- The requests that were submitted. -/
def Trace.submissions (trace : Trace) : List Submission :=
  trace.filterMap fun
    | .submitted device request answer => some ⟨device, request, answer⟩
    | _ => none

@[simp]
theorem Trace.submissions_append (left right : Trace) :
    (left ++ right).submissions = left.submissions ++ right.submissions :=
  List.filterMap_append

/-- The engine after it has taken requests, or refused them. -/
def Engine.after (engine : Engine η) (state : η) (submissions : List Submission) : η :=
  submissions.foldl
    (fun state submission => (engine.submit state submission.device submission.request).engine)
    state

/-! ## What a line comes to -/

/-- What becomes of a line. -/
inductive Handling where
  /-- Nothing is said about the line. -/
  | silent
  /-- A text is shown. -/
  | shows (text : String)
  /-- The line is not carried out. -/
  | fails (failure : CommandFailure)
  /-- A request is submitted. -/
  | submits (device : DeviceId) (request : Request)

/-- What becomes of a request that needs a payload. -/
def Handling.ofPayload (device : DeviceId) (request : α → Request) :
    Except CommandFailure α → Handling
  | .ok payload => submits device (request payload)
  | .error failure => fails failure

namespace Command

/-- What becomes of a command. -/
def handling (S : Setting η ω) (engine : η) : Command → Handling
  | list => .shows (S.engine.registry engine).listing
  | overview => .shows CommandEntry.overview
  | explain entry => .shows (entry.explanation ++ "\n")
  | submit device request => .submits device request
  | write device path text isPartial =>
      .ofPayload device (fun payload => .write path payload isPartial)
        (writePayload (S.engine.decode engine path text) text isPartial)
  | create device path text =>
      .ofPayload device (createRequest path)
        (createRecords S.fallbacks (S.engine.decode engine path text) path text)
  | quit => .silent

end Command

/-- What becomes of a line. -/
def handlingOf (S : Setting η ω) (engine : η) (line : List Char) : Handling :=
  match Command.ofLine? line with
  | none => .silent
  | some ⟨_, .ok command⟩ => command.handling S engine
  | some ⟨_, .error failure⟩ => .fails failure

/-- What becomes of a line of the grammar is what becomes of its command. -/
theorem handlingOf_of_engineLine (S : Setting η ω) (engine : η) {line : List Char}
    {command : Command} (hline : EngineLine (Words.ofLine line) command) :
    handlingOf S engine line = command.handling S engine := by
  obtain ⟨⟨keyword, _⟩, htyped, rfl, -⟩ := Command.engineLine_iff.mpr hline
  rw [handlingOf, htyped]

namespace Handling

/-- The request that is submitted, with its answer. -/
def submissions (engine : Engine η) (state : η) : Handling → List Submission
  | submits device request => [⟨device, request, (engine.submit state device request).value⟩]
  | _ => []

/-- What is said of the answer to a request. -/
def answerText : Except Status Unit → String
  | .ok () => "OK"
  | .error status => (CommandFailure.rejected status).message

/-- What is written to the screen, if anything is. -/
def reply? (engine : Engine η) (state : η) : Handling → Option String
  | silent => none
  | shows text => some text
  | fails failure => if failure.isOperatorFacing then some failure.message else none
  | submits device request => some (answerText (engine.submit state device request).value)

/-- The failure that is handed back instead of being told to the operator. -/
def withheld? : Handling → Option IoFailure
  | fails (.output cause) => some cause
  | _ => none

end Handling

/-! ## Single activities -/

theorem Console.write_nil (console : Console) : console.write [] = ⟨[], .ok (), console⟩ := by
  rcases console with ⟨room, flushFails⟩
  cases room <;> simp [write]

namespace Concerns

variable {topics : List Topic} {activity : Activity (Session η ω) α}

theorem submissions_eq_nil (h : Concerns topics activity) (session : Session η ω)
    (hrequest : .request ∉ topics) : (activity session).events.submissions = [] := by
  rw [Trace.submissions, List.filterMap_eq_nil_iff]
  intro event hmem
  split
  · exact absurd rfl (h.topic_ne hmem .request hrequest)
  · rfl

theorem texts_eq_nil (h : Concerns topics activity) (session : Session η ω)
    (hscreen : .screen ∉ topics) : (activity session).events.texts = [] := by
  rw [Trace.texts, List.filterMap_eq_nil_iff]
  intro event hmem
  split
  · exact absurd rfl (h.topic_ne hmem .screen hscreen)
  · rfl

end Concerns

namespace Session

variable (S : Setting η ω) (session : Session η ω)

/-- What the screen takes of a text is written, and the value says whether it was all. -/
theorem write_texts (text : String) :
    (write S text session).events.texts = [session.console.clip (Utf8.encode text)] ∧
      (write S text session).value = (session.console.write (Utf8.encode text)).result := by
  have hvalue : (write S text session).value =
      ((attend S session).session.console.write (Utf8.encode text)).result := rfl
  constructor
  · rw [write_events, Trace.texts_append, (Concerns.attend S).texts_eq_nil _ (by decide)]
    rfl
  · rw [hvalue, attend_console]

theorem write_session (text : String) : ∃ host token, (write S text session).session =
    { session with console := session.console.after (Utf8.encode text), host, token } := by
  obtain ⟨host, token, hattended⟩ := Travels.attend_session S session
  refine ⟨host, token, ?_⟩
  rw [← Console.write_console]
  simp [write, hattended]

/-- Decoding a text concerns the host and the token only. -/
theorem decode_session (path : Path) (text : String) :
    ∃ host token, (decode S path text session).session = { session with host, token } := by
  obtain ⟨host, token, hattended⟩ := Travels.attend_session S session
  have hnoted : (note S (.called (.decode path text)) session).session =
      { session with host, token } := hattended
  obtain ⟨last, hheeded⟩ := heedAll_session S { session with host, token }
    (S.engine.decodeRemarks session.engine path text)
  refine ⟨host, last, ?_⟩
  rw [decode, Activity.bind_session, Activity.get_bind_run, hnoted]
  exact hheeded

/-- In front of an event that is noted there may be an interrupt, which submits nothing. -/
theorem note_submissions (event : Event) :
    (note S event session).events.submissions = Trace.submissions [event] := by
  rw [note, Activity.bind_events, Trace.submissions_append,
    (Concerns.attend S).submissions_eq_nil _ (by decide)]
  rfl

theorem decode_submissions (path : Path) (text : String) :
    (decode S path text session).events.submissions = [] := by
  rw [decode, Activity.bind_events, Trace.submissions_append, note_submissions,
    Activity.get_bind_run, Activity.bind_events, Trace.submissions_append,
    (Concerns.heedAll S _).submissions_eq_nil _ (by decide)]
  rfl

/-- A request is handed to the engine once. -/
theorem submit_submissions (device : DeviceId) (request : Request) :
    (submit S device request session).events.submissions =
      [⟨device, request, (S.engine.submit session.engine device request).value⟩] := by
  rw [submit, Activity.bind_events, Trace.submissions_append, note_submissions,
    Activity.get_bind_run, note_engine, Activity.bind_events, Trace.submissions_append,
    (Concerns.heedAll S _).submissions_eq_nil _ (by decide)]
  rfl

theorem submit_value (device : DeviceId) (request : Request) :
    (submit S device request session).value =
      (S.engine.submit session.engine device request).value := by
  rw [submit, Activity.bind_value, Activity.get_bind_run, note_engine]
  rfl

theorem submit_session (device : DeviceId) (request : Request) : ∃ host token,
    (submit S device request session).session =
      { session with
        engine := (S.engine.submit session.engine device request).engine
        host
        token } := by
  obtain ⟨host, token, hattended⟩ := Travels.attend_session S session
  have hnoted : (note S (.called (.submit device request)) session).session =
      { session with host, token } := hattended
  let answer := S.engine.submit session.engine device request
  obtain ⟨last, hheeded⟩ := heedAll_session S { session with host, token } answer.remarks
  refine ⟨host, last, ?_⟩
  rw [submit, Activity.bind_session, Activity.get_bind_run, hnoted]
  simp only [Activity.bind_session, Activity.modify_run, Activity.emit_run, Activity.pure_run]
  rw [show S.engine.submit _ device request = answer from rfl, hheeded]

end Session

/-! ## Carrying out a line -/

/-- What is left by an activity that does what a line comes to. -/
structure Handled (S : Setting η ω) (session : Session η ω) (handling : Handling)
    (ran : Ran (Session η ω) (Except IoFailure Unit)) : Prop where
  submissions : ran.events.submissions = handling.submissions S.engine session.engine
  texts : ran.events.texts = (handling.reply? S.engine session.engine).toList.map fun text =>
    session.console.clip (Utf8.encode text)
  value : ran.value =
    match handling.withheld? with
    | some cause => .error cause
    | none => (session.console.write (Utf8.encode
        ((handling.reply? S.engine session.engine).getD ""))).result
  session : ∃ host token, ran.session =
    { session with
      engine := S.engine.after session.engine ran.events.submissions
      console := session.console.after (Utf8.encode
        ((handling.reply? S.engine session.engine).getD ""))
      host
      token }

/-- What is left by an activity that the operator does not see and the engine is not changed by. -/
structure Unnoticed (session : Session η ω) (ran : Ran (Session η ω) α) : Prop where
  submissions : ran.events.submissions = []
  texts : ran.events.texts = []
  session : ∃ host token, ran.session = { session with host, token }

namespace Unnoticed

variable (S : Setting η ω) (session : Session η ω)

theorem pure (value : α) : Unnoticed session ((pure value : Activity (Session η ω) α) session) :=
  ⟨rfl, rfl, session.host, session.token, rfl⟩

theorem bind {β : Type} {first : Activity (Session η ω) α} {next : α → Activity (Session η ω) β}
    (hfirst : Unnoticed session (first session))
    (hnext : Unnoticed (first session).session
      (next (first session).value (first session).session)) :
    Unnoticed session ((first >>= next) session) := by
  obtain ⟨host, token, hsession⟩ := hfirst.session
  obtain ⟨last, reason, hlast⟩ := hnext.session
  constructor
  · simp [hfirst.submissions, hnext.submissions]
  · simp [Trace.texts_append, hfirst.texts, hnext.texts]
  · exact ⟨last, reason, by rw [Activity.bind_session, hlast, hsession]⟩

theorem log (diagnostic : Diagnostic) : Unnoticed session (Session.log S diagnostic session) where
  submissions := (Concerns.log S diagnostic).submissions_eq_nil session (by decide)
  texts := (Concerns.log S diagnostic).texts_eq_nil session (by decide)
  session := ⟨session.host, session.token, Session.log_session S diagnostic session⟩

theorem raise (source : RaiseSource) (reason : Termination) :
    Unnoticed session (Session.raise source reason session) :=
  ⟨rfl, rfl, session.host, session.token.raise reason, rfl⟩

theorem decode (path : Path) (text : String) :
    Unnoticed session (Session.decode S path text session) where
  submissions := Session.decode_submissions S session path text
  texts := (Concerns.decode S path text).texts_eq_nil session (by decide)
  session := Session.decode_session S session path text

end Unnoticed

/-- What is still to be done once a command has an answer. -/
def Handling.ofAnswer : Except CommandFailure Reply → Handling
  | .ok .accepted => .shows "OK"
  | .ok .done => .silent
  | .error failure => .fails failure

/-- The end of a line that was carried out: the log is told and the answer is shown. -/
def conclude (S : Setting η ω) (keyword : String) (answer : Except CommandFailure Reply) :
    Activity (Session η ω) (Except IoFailure Unit) := do
  Session.log S (.commandDispatched keyword answer)
  showAnswer S answer

/-- The answer to a command whose request was answered. -/
def answered : Except Status Unit → Except CommandFailure Reply
  | .ok () => .ok .accepted
  | .error status => .error (.rejected status)

theorem Command.submitted_eq (S : Setting η ω) (device : DeviceId) (request : Request) :
    Command.submitted S device request =
      Session.submit S device request >>= fun answer => pure (answered answer) := by
  unfold Command.submitted
  congr 1
  funext answer
  cases answer with
  | ok _ => rfl
  | error status => rfl

namespace Handled

variable {S : Setting η ω} {session : Session η ω} {handling : Handling}

/-- What is not noticed may come first. -/
theorem behind {first : Activity (Session η ω) α}
    {next : α → Activity (Session η ω) (Except IoFailure Unit)}
    (hfirst : Unnoticed session (first session))
    (hnext : Handled S (first session).session handling
      (next (first session).value (first session).session)) :
    Handled S session handling ((first >>= next) session) := by
  obtain ⟨host, token, hsession⟩ := hfirst.session
  rw [hsession] at hnext
  have hsubmissions : ((first >>= next) session).events.submissions =
      (next (first session).value (first session).session).events.submissions := by
    rw [Activity.bind_events, Trace.submissions_append, hfirst.submissions, List.nil_append]
  rw [hsession] at hsubmissions
  constructor
  · rw [hsubmissions, hnext.submissions]
  · rw [Activity.bind_events, Trace.texts_append, hfirst.texts, List.nil_append, hsession,
      hnext.texts]
  · rw [Activity.bind_value, hsession, hnext.value]
  · obtain ⟨last, reason, hlast⟩ := hnext.session
    refine ⟨last, reason, ?_⟩
    rw [hsubmissions, Activity.bind_session, hsession, hlast]

/-- What is not noticed may come last, when it hands the value on. -/
theorem ahead {first : Activity (Session η ω) (Except IoFailure Unit)}
    {next : Except IoFailure Unit → Activity (Session η ω) (Except IoFailure Unit)}
    (hfirst : Handled S session handling (first session))
    (hnext : (next (first session).value (first session).session).value = (first session).value ∧
      Unnoticed (first session).session (next (first session).value (first session).session)) :
    Handled S session handling ((first >>= next) session) := by
  obtain ⟨hvalue, hunnoticed⟩ := hnext
  have hsubmissions : ((first >>= next) session).events.submissions =
      (first session).events.submissions := by
    rw [Activity.bind_events, Trace.submissions_append, hunnoticed.submissions, List.append_nil]
  constructor
  · rw [hsubmissions, hfirst.submissions]
  · rw [Activity.bind_events, Trace.texts_append, hunnoticed.texts, List.append_nil, hfirst.texts]
  · rw [Activity.bind_value, hvalue, hfirst.value]
  · obtain ⟨host, token, hsession⟩ := hfirst.session
    obtain ⟨last, reason, hlast⟩ := hunnoticed.session
    refine ⟨last, reason, ?_⟩
    rw [hsubmissions, Activity.bind_session, hlast, hsession]

variable (S session)

/-- Nothing is said, but perhaps something is handed back. -/
theorem nothing {value : Except IoFailure Unit}
    (hreply : handling.reply? S.engine session.engine = none)
    (hsubmissions : handling.submissions S.engine session.engine = [])
    (hvalue : value = handling.withheld?.elim (.ok ()) .error) :
    Handled S session handling ((pure value : Activity (Session η ω) _) session) where
  submissions := hsubmissions.symm
  texts := by rw [hreply]; rfl
  value := by
    rw [hreply, Activity.pure_run, hvalue]
    cases handling.withheld? with
    | none => exact (congrArg Console.Written.result (Console.write_nil session.console)).symm
    | some cause => rfl
  session := by
    refine ⟨session.host, session.token, ?_⟩
    rw [hreply]
    change session = { session with console := session.console.after [] }
    rw [Console.after_nil]

/-- A text is written, and nothing else. -/
theorem write {text : String} (hreply : handling.reply? S.engine session.engine = some text)
    (hwithheld : handling.withheld? = none)
    (hsubmissions : handling.submissions S.engine session.engine = []) :
    Handled S session handling (Session.write S text session) := by
  obtain ⟨htexts, hvalue⟩ := Session.write_texts S session text
  have hnone : (Session.write S text session).events.submissions = [] :=
    (Concerns.write S text).submissions_eq_nil session (by decide)
  constructor
  · rw [hsubmissions, hnone]
  · rw [hreply, htexts]
    rfl
  · rw [hreply, hwithheld, hvalue]
    rfl
  · rw [hreply, hnone]
    exact Session.write_session S session text

theorem showAnswer (answer : Except CommandFailure Reply) :
    Handled S session (.ofAnswer answer) (showAnswer S answer session) := by
  rcases answer with failure | reply
  · cases failure with
    | output cause => exact nothing S session rfl rfl rfl
    | _ => exact write S session rfl rfl rfl
  · cases reply with
    | accepted => exact write S session rfl rfl rfl
    | done => exact nothing S session rfl rfl rfl

theorem conclude (keyword : String) (answer : Except CommandFailure Reply) :
    Handled S session (.ofAnswer answer) (conclude S keyword answer session) := by
  refine behind (Unnoticed.log S session _) ?_
  rw [Session.log_session]
  exact showAnswer S session answer

/-- The answer to a request is told. -/
theorem told (keyword : String) (answer : Except Status Unit) :
    Handled S session (.shows (Handling.answerText answer))
      (DeviceConsole.conclude S keyword (answered answer) session) := by
  have hconcluded := conclude S session keyword (answered answer)
  cases answer with
  | ok _ => exact hconcluded
  | error status =>
      exact ⟨hconcluded.submissions, hconcluded.texts, hconcluded.value, hconcluded.session⟩

/-- A request is submitted, and its answer is told. -/
theorem submits (keyword : String) (device : DeviceId) (request : Request) :
    Handled S session (.submits device request)
      ((Command.submitted S device request >>= DeviceConsole.conclude S keyword) session) := by
  let answer := (S.engine.submit session.engine device request).value
  obtain ⟨host, token, hsession⟩ := Session.submit_session S session device request
  have hsubmissions := Session.submit_submissions S session device request
  have htexts := (Concerns.submit S device request).texts_eq_nil session (by decide)
  have hran : (Command.submitted S device request >>= DeviceConsole.conclude S keyword) session =
      (Session.submit S device request >>= fun answer =>
        DeviceConsole.conclude S keyword (answered answer)) session := by
    rw [Command.submitted_eq, Activity.bind_assoc]
    simp only [Activity.pure_bind]
  have htold := told S (Session.submit S device request session).session keyword answer
  rw [hsession] at htold
  have hall : ((Command.submitted S device request >>= DeviceConsole.conclude S keyword)
      session).events.submissions = [⟨device, request, answer⟩] := by
    rw [hran, Activity.bind_events, Trace.submissions_append, hsubmissions, Session.submit_value,
      hsession, htold.submissions]
    rfl
  constructor
  · exact hall
  · rw [hran, Activity.bind_events, Trace.texts_append, htexts, Session.submit_value, hsession,
      htold.texts]
    rfl
  · rw [hran, Activity.bind_value, Session.submit_value, hsession, htold.value]
    rfl
  · obtain ⟨last, reason, hlast⟩ := htold.session
    refine ⟨last, reason, ?_⟩
    rw [hall, hran, Activity.bind_session, Session.submit_value, hsession, hlast,
      htold.submissions]
    rfl

/-- A text is shown as the whole answer. -/
theorem shows (keyword : String) (text : String) :
    Handled S session (.shows text)
      ((Command.shown S text >>= DeviceConsole.conclude S keyword) session) := by
  have hwritten : Handled S session (.shows text) (Session.write S text session) :=
    write S session rfl rfl rfl
  unfold Command.shown
  rw [Activity.bind_assoc]
  refine ahead hwritten ?_
  cases (Session.write S text session).value with
  | ok _ =>
      refine ⟨rfl, .bind _ (.pure _ _) (.bind _ (.log S _ _) (.pure _ _))⟩
  | error failure =>
      refine ⟨rfl, .bind _ (.pure _ _) (.bind _ (.log S _ _) (.pure _ _))⟩

/-- Carrying out a command does what the command comes to. -/
theorem execute (keyword : String) (command : Command) :
    Handled S session (command.handling S session.engine)
      ((command.execute S >>= DeviceConsole.conclude S keyword) session) := by
  cases command with
  | list => exact shows S session keyword _
  | overview => exact shows S session keyword _
  | explain entry => exact shows S session keyword _
  | submit device request => exact submits S session keyword device request
  | write device path text isPartial =>
      rw [Command.execute, Activity.bind_assoc, Command.handling,
        ← Session.decode_value S session path text]
      refine behind (.decode S session path text) ?_
      cases Command.writePayload (Session.decode S path text session).value text isPartial with
      | ok payload => exact submits S _ keyword device _
      | error failure => exact conclude S _ keyword (.error failure)
  | create device path text =>
      rw [Command.execute, Activity.bind_assoc, Command.handling,
        ← Session.decode_value S session path text]
      refine behind (.decode S session path text) ?_
      cases Command.createRecords S.fallbacks (Session.decode S path text session).value path
        text with
      | ok records => exact submits S _ keyword device _
      | error failure => exact conclude S _ keyword (.error failure)
  | quit =>
      rw [Command.execute, Activity.bind_assoc]
      refine behind (.raise session _ _) ?_
      rw [Activity.pure_bind]
      exact conclude S _ keyword (.ok .done)

end Handled

/-- Carrying out a line does what the line comes to. -/
theorem dispatch_handled (S : Setting η ω) (session : Session η ω) (line : List Char) :
    Handled S session (handlingOf S session.engine line) (dispatch S line session) := by
  unfold dispatch handlingOf
  cases Command.ofLine? line with
  | none => exact Handled.nothing S session rfl rfl rfl
  | some typed =>
      obtain ⟨keyword, command⟩ := typed
      cases command with
      | ok command => exact Handled.execute S session keyword command
      | error failure => exact Handled.conclude S session keyword (.error failure)

end DeviceConsole
