import DeviceConsole.Proofs.Reactor.Datagrams
import DeviceConsole.Proofs.Reactor.OperatorLines
import DeviceConsole.Proofs.Session.Dialogues

/-!
# How a run lets go

A run that leaves its loop closes the engine while the socket and all connections are still
there, and carries out what the engine does at its close, so that the engine's last datagrams go
out.  Then it lets go of the engine, of the means to wait and of the socket, and reports why it
stopped and how many connections there were.  There was one for every peer that an acceptable
datagram came from.

Main results:

- Theorem {lit}`Resolved.step`: until the socket is closed, a connection that was opened is found.
- Theorem {lit}`Reactor.shutdown_events`: what the shutdown leaves, in order.
- Theorem {lit}`Reactor.entries_closing`: when the engine is closed, the directory has every
  connection that was opened.
- Theorem {lit}`Reactor.run_leaves`: a run that leaves its loop ends with the shutdown.
- Theorem {lit}`Reactor.run_about_before`: nothing goes out once the engine is closed.
- Theorem {lit}`run_shutsDown`: a run lets go of everything once and in order.
-/

namespace DeviceConsole

variable {η ω : Type}

/-! ## Connections until the end -/

/-- A datagram was just given to the socket, for a connection of the handle, and the answer is the
socket's. -/
def WentOut (before : Trace) (id : ConnectionId) (answer : Except LinkFailure Unit) : Prop :=
  ∃ (front : Trace) (connection : Connection) (datagram : List UInt8)
    (result : Except IoFailure Unit),
    before = front ++ [.sent connection.peer datagram] ∧ connection ∈ front.opened ∧
      connection.id = id ∧ answer = result.mapError .send

/-- While the socket is open, what is sent over the handle of a connection that was opened goes
out. -/
structure Resolved (past : Trace) : Prop where
  answered : ∀ {before after : Trace} {id : ConnectionId} {answer : Except LinkFailure Unit},
    past = before ++ .sendAnswered id answer :: after → .socketClosed ∉ before →
      ∀ connection ∈ before.opened, connection.id = id → WentOut before id answer

namespace Resolved

variable {past events : Trace} {session next : Session η ω}

/-- More events keep to this when each of their own answers does. -/
theorem append (h : Resolved past)
    (hanswered : ∀ {front after id answer}, events = front ++ .sendAnswered id answer :: after →
      .socketClosed ∉ past ++ front → ∀ connection ∈ (past ++ front).opened, connection.id = id →
        WentOut (past ++ front) id answer) :
    Resolved (past ++ events) where
  answered := by
    intro before after id answer hsplit
    rcases Trace.split_append hsplit with ⟨rest, hpast, -⟩ | ⟨front, rfl, hevents⟩
    · exact h.answered hpast
    · exact hanswered hevents

theorem aside (h : Resolved past) (haside : ∀ id answer, .sendAnswered id answer ∉ events) :
    Resolved (past ++ events) := by
  refine h.append ?_
  intro front after id answer hevents
  exact absurd (by simp [hevents]) (haside id answer)

/-- A datagram that the directory has a connection for goes out. -/
theorem send (h : Resolved past) (hdirected : Directed past session) {id : ConnectionId}
    {entry : Connection} (hfound : session.directory.get? id = some entry)
    (datagram : List UInt8) (result : Except IoFailure Unit) :
    Resolved (past ++ [.sent entry.peer datagram, .sendAnswered id (result.mapError .send)]) := by
  refine h.append ?_
  intro front after other answer hevents _ _ _ _
  obtain ⟨rfl, rfl, rfl⟩ : front = [.sent entry.peer datagram] ∧ other = id ∧
      answer = result.mapError .send := by
    rcases front with _ | ⟨first, _ | ⟨second, front⟩⟩ <;> simp_all
  exact ⟨past, entry, datagram, result, rfl,
    hdirected.known entry (List.mem_of_find?_eq_some hfound), by simpa using List.find?_some hfound,
    rfl⟩

/-- While the socket is open, the directory has every connection that was opened. -/
theorem lose (h : Resolved past) (hdirected : Directed past session) {id : ConnectionId}
    (hnone : session.directory.get? id = none) (answer : Except LinkFailure Unit) :
    Resolved (past ++ [.sendAnswered id answer]) := by
  refine h.append ?_
  intro front after other given hevents hopen connection hmem hid
  obtain ⟨rfl, rfl⟩ : front = [] ∧ other = id := by
    rcases front with _ | ⟨first, front⟩ <;> simp_all
  rw [List.append_nil] at hopen hmem
  rw [Directory.get?, hdirected.entries_eq hopen, List.find?_eq_none] at hnone
  exact absurd (by simp [hid]) (hnone connection (by simpa using hmem))

/-- Until the socket is closed, a connection that was opened is found. -/
theorem step (h : Resolved past) (hdirected : Directed past session)
    (hstep : Step session events next) : Resolved (past ++ events) := by
  -- Only a send is answered; it goes out when its connection is found, and is lost otherwise.
  cases hstep with
  | move hmove =>
      cases hmove with
      | tell hplain =>
          refine h.aside ?_
          intro id answer hmem
          obtain rfl := List.mem_singleton.mp hmem
          simp [Event.isPlain] at hplain
      | send hfound datagram result host => exact h.send hdirected hfound datagram result
      | lose hnone => exact h.lose hdirected hnone _
      | resolve peer =>
          refine h.aside ?_
          split <;> simp
      | _ => exact h.aside (by simp)
  | _ => exact h.aside (by simp)

theorem run (S : Setting η ω) (rounds : Nat) (session : Session η ω) :
    Resolved (Reactor.run S rounds { session with directory := .empty }).events := by
  have hchain := Travels.run S rounds { session with directory := .empty }
  have hfirst : Directed [] { session with directory := .empty } ∧ Resolved [] :=
    ⟨Directed.empty rfl, ⟨by simp⟩⟩
  exact (@Chain.keeps _ _ _ _ _ _ (fun past session => Directed past session ∧ Resolved past)
    (fun hholds hstep => ⟨hholds.1.step hstep, hholds.2.step hholds.1 hstep⟩) hchain [] hfirst).2

end Resolved

/-! ## The shutdown -/

namespace Reactor

variable (S : Setting η ω)

/-- What closing the engine leaves: the call, and what the engine does at its close. -/
theorem closeEngine_events (session : Session η ω) :
    (Session.closeEngine S session).events =
      (Session.attend S session).events ++ .called .close ::
        (Session.converse S (S.engine.close (Session.attend S session).session.engine)
          (Session.attend S session).session).events := by
  have hevents : (Session.closeEngine S session).events =
      ((Session.attend S session).events ++ [.called .close]) ++
        (Session.converse S (S.engine.close (Session.attend S session).session.engine)
          (Session.attend S session).session).events := rfl
  rw [hevents, List.append_assoc, List.singleton_append]

/-- What the shutdown tells the log at its end. -/
def lastWords (session : Session η ω) : Trace :=
  (Session.logFailure S .consoleNotFlushed session.console.flush session).events

theorem lastWords_logged (session : Session η ω) :
    ∀ event ∈ lastWords S session, ∃ diagnostic, event = .logged diagnostic := by
  intro event hmem
  unfold lastWords at hmem
  cases hflush : session.console.flush with
  | ok _ => simp [hflush, Session.logFailure] at hmem
  | error failure =>
      rw [hflush, Session.logFailure, Session.log] at hmem
      split at hmem
      · exact ⟨_, by simpa using hmem⟩
      · simp at hmem

/-- What is left of the shutdown once the engine is closed: everything is let go, and reported is
how many connections there were. -/
def lettingGo (reason : Termination) (session : Session η ω) : Trace :=
  .engineDropped :: .pollerDropped :: .socketClosed ::
    (lastWords S session ++ [.reported (.shutdownCompleted reason session.directory.size)])

/-- Nothing is received any more. -/
theorem about_socket_lettingGo (reason : Termination) (session : Session η ω) :
    (lettingGo S reason session).about .socket = [] := by
  rw [Trace.about, List.filter_eq_nil_iff]
  intro event hmem
  simp only [lettingGo, List.mem_cons, List.mem_append, List.not_mem_nil, or_false] at hmem
  rcases hmem with rfl | rfl | rfl | hmem | rfl
  · decide
  · decide
  · decide
  · obtain ⟨diagnostic, rfl⟩ := lastWords_logged S session event hmem
    simp [Event.topic]
  · simp [Event.topic]

/-- The shutdown closes the engine and then lets go of everything. -/
theorem shutdown_events (reason : Termination) (session : Session η ω) :
    (shutdown S reason session).events =
      (Session.closeEngine S session).events ++
        lettingGo S reason (Session.closeEngine S session).session := by
  let closed := Session.closeEngine S session
  have hlast : (Session.logFailure S .consoleNotFlushed closed.session.console.flush
      { closed.session with directory := closed.session.directory.release }).events =
      lastWords S closed.session := by
    unfold lastWords
    cases closed.session.console.flush with
    | ok _ => rfl
    | error failure =>
        simp only [Session.logFailure, Session.log]
        split <;> rfl
  have hevents : (shutdown S reason session).events =
      closed.events ++ .engineDropped :: .pollerDropped :: .socketClosed ::
        ((Session.logFailure S .consoleNotFlushed closed.session.console.flush
          { closed.session with directory := closed.session.directory.release }).events ++
          [.reported (.shutdownCompleted reason closed.session.directory.size)]) := rfl
  rw [hevents, hlast]
  rfl

/-- The last event of a loop that has found a reason is the look that found it. -/
theorem loop_leaves (rounds : Nat) (session : Session η ω) {reason : Termination}
    (hvalue : (loop S rounds session).value = some reason) :
    ∃ front : Trace, (loop S rounds session).events = front ++ [.checked (some reason)] := by
  obtain ⟨front, after, hsplit⟩ :=
    List.append_of_mem (checked_of_loop_value S rounds session hvalue)
  obtain ⟨rfl, -⟩ := loop_look S rounds session hsplit
  exact ⟨front, hsplit⟩

/-- The session in which a run closes its engine: the loop is left, and an interrupt that has
arrived is raised. -/
def closing (rounds : Nat) (first : Session η ω) : Session η ω :=
  (Session.attend S
    (loop S rounds (Session.writeConsole S prompt first).session).session).session

/-- How a trace ends with a shutdown, by the session in which the engine is closed. -/
structure Leaves (closing : Session η ω) (trace : Trace) (reason : Termination) (released : Nat)
    (front interrupts during logs : Trace) : Prop where
  /-- A look finds the reason, the engine is closed, everything is let go, and the report comes
  last. -/
  trace_eq : trace = front ++ .checked (some reason) :: (interrupts ++ .called .close ::
    (during ++ .engineDropped :: .pollerDropped :: .socketClosed ::
      (logs ++ [.reported (.shutdownCompleted reason released)])))
  /-- Before the look nothing is let go. -/
  front_topics : front.about .closing = []
  interrupts_eq : ∀ event ∈ interrupts, event = .raised .interrupt .interrupted
  /-- While it is closed, the engine has the attention of the session. -/
  during_eq : during = (Session.converse S (S.engine.close closing.engine) closing).events
  /-- What it does then is carried out to the end, over all connections that were opened. -/
  carriedOut : (S.engine.close closing.engine).CarriedOut S trace.opened during ()
  /-- So it sends, asks for something on the side or tells the log. -/
  during_topics : ∀ event ∈ during, event.topic ∈ [.aside, .link]
  logs_eq : ∀ event ∈ logs, ∃ diagnostic, event = .logged diagnostic

/-- A loop lets nothing go. -/
theorem about_closing_loop (rounds : Nat) (session : Session η ω) :
    (loop S rounds session).events.about .closing = [] := by
  induction rounds generalizing session with
  | zero => rfl
  | succ rounds ih =>
      have hlook : (Session.check S session).events.about .closing = [] :=
        (Concerns.check S).about_eq_nil session (by decide)
      cases hvalue : (Session.check S session).value with
      | some reason => rw [loop_events_of_stopping S rounds hvalue, hlook]
      | none =>
          rw [loop_events_of_running S rounds hvalue]
          dsimp only
          rw [Trace.about_append, Trace.about_append, hlook,
            (Concerns.iterate S).about_eq_nil _ (by decide), List.nil_append, List.nil_append]
          split
          · exact ih _
          · rfl

/-- The events of a run that stand in front of the last call to its engine. -/
def beforeClose (rounds : Nat) (first : Session η ω) : Trace :=
  let prompted := Session.writeConsole S prompt first
  let looped := loop S rounds prompted.session
  prompted.events ++ (looped.events ++ (Session.attend S looped.session).events)

/-- A run that leaves its loop goes on with the last call to the engine, what the engine does
then, and what is left of the shutdown. -/
theorem run_events_of_value {rounds : Nat} {first : Session η ω} {reason : Termination}
    (hvalue : (run S rounds first).value = some reason) :
    let spoken := Session.converse S (S.engine.close (closing S rounds first).engine)
      (closing S rounds first)
    (run S rounds first).events =
      beforeClose S rounds first ++
        .called .close :: (spoken.events ++ lettingGo S reason spoken.session) := by
  intro spoken
  let looped := loop S rounds (Session.writeConsole S prompt first).session
  have hclose : (Session.closeEngine S looped.session).events =
      (Session.attend S looped.session).events ++ .called .close :: spoken.events :=
    closeEngine_events S looped.session
  have hclosed : (Session.closeEngine S looped.session).session = spoken.session := rfl
  rw [run_value] at hvalue
  rw [run_events]
  dsimp only
  rw [hvalue, afterLoop_some_events, shutdown_events, hclose, hclosed]
  simp [beforeClose, looped]

/-- Up to the last call to the engine nothing is let go. -/
theorem about_beforeClose (rounds : Nat) (first : Session η ω) :
    (beforeClose S rounds first).about .closing = [] := by
  rw [beforeClose, Trace.about_append, Trace.about_append, about_closing_loop,
    (Concerns.writeConsole S prompt).about_eq_nil _ (by decide),
    (Concerns.attend S).about_eq_nil _ (by decide)]
  rfl

/-- From the last call to the engine on, no connection is opened. -/
theorem opened_run {rounds : Nat} {first : Session η ω} {reason : Termination}
    (hvalue : (run S rounds first).value = some reason) :
    (run S rounds first).events.opened = (beforeClose S rounds first).opened := by
  rw [run_events_of_value S hvalue, Trace.opened_append, ← Trace.opened_about (.called .close :: _),
    Trace.about_cons, Trace.about_append, about_socket_lettingGo,
    (Concerns.converse S _).about_eq_nil _ (by decide)]
  exact List.append_nil _

/-- When the engine is closed, the directory has every connection that was opened. -/
theorem entries_closing (rounds : Nat) (session : Session η ω) {reason : Termination} :
    let first := { session with directory := .empty }
    (run S rounds first).value = some reason →
      (closing S rounds first).directory.entries = (run S rounds first).events.opened.reverse := by
  intro first hvalue
  let prompted := Session.writeConsole S prompt first
  let looped := loop S rounds prompted.session
  have hchain : Chain Step first (beforeClose S rounds first) (closing S rounds first) :=
    ((Travels.writeConsole S prompt).steps first).trans
      ((Travels.loop S rounds prompted.session).trans ((Travels.attend S).steps looped.session))
  have hdirected : Directed (beforeClose S rounds first) (closing S rounds first) :=
    @Chain.keeps _ _ _ _ _ _ Directed (fun h hstep => h.step hstep) hchain [] (Directed.empty rfl)
  have hopen : .socketClosed ∉ beforeClose S rounds first := by
    intro hmem
    have hclosed : .socketClosed ∈ (beforeClose S rounds first).about .closing :=
      List.mem_filter.mpr ⟨hmem, rfl⟩
    simp [about_beforeClose] at hclosed
  rw [hdirected.entries_eq hopen, opened_run S hvalue]

/-- When the engine is closed, there is a connection for every peer that an acceptable datagram
came from. -/
theorem size_closing (rounds : Nat) (session : Session η ω) {reason : Termination} :
    let first := { session with directory := .empty }
    (run S rounds first).value = some reason →
      (closing S rounds first).directory.size =
        ((run S rounds first).events.accepted.map (·.peer)).eraseDups.length := by
  intro first hvalue
  rw [← (Delivered.run S rounds session).opened_eq, List.length_map, Directory.size,
    entries_closing S rounds session hvalue, List.length_reverse]

/-- Up to the last call to the engine there is the look that has found the reason to stop, and at
most an interrupt behind it. -/
theorem beforeClose_eq {rounds : Nat} {first : Session η ω} {reason : Termination}
    (hvalue : (run S rounds first).value = some reason) : ∃ front interrupts : Trace,
      beforeClose S rounds first = front ++ .checked (some reason) :: interrupts ∧
        front.about .closing = [] ∧
        ∀ event ∈ interrupts, event = .raised .interrupt .interrupted := by
  let prompted := Session.writeConsole S prompt first
  let looped := loop S rounds prompted.session
  let attended := Session.attend S looped.session
  have hloop : looped.value = some reason := by rwa [run_value] at hvalue
  obtain ⟨front, hfront⟩ := loop_leaves S rounds prompted.session hloop
  have hbefore : beforeClose S rounds first =
      (prompted.events ++ front) ++ .checked (some reason) :: attended.events := by
    have hlooped : looped.events = front ++ [.checked (some reason)] := hfront
    have hstart : beforeClose S rounds first =
        prompted.events ++ (looped.events ++ attended.events) := rfl
    rw [hstart, hlooped]
    simp
  refine ⟨prompted.events ++ front, attended.events, hbefore, ?_, ?_⟩
  · have hquiet := about_beforeClose S rounds first
    rw [hbefore, Trace.about_append] at hquiet
    exact (List.append_eq_nil_iff.mp hquiet).1
  · intro event hmem
    rcases Session.attend_events S looped.session with hnone | hone
    · simp [attended, hnone] at hmem
    · simpa [attended, hone] using hmem

/-- A run that leaves its loop ends with the shutdown, and reports how many peers an acceptable
datagram came from. -/
theorem run_leaves (rounds : Nat) (session : Session η ω) {reason : Termination} :
    let first := { session with directory := .empty }
    let ran := run S rounds first
    ran.value = some reason → ∃ front interrupts during logs,
      Leaves S (closing S rounds first) ran.events reason
        (ran.events.accepted.map (·.peer)).eraseDups.length front interrupts during logs := by
  intro first ran hvalue
  let parting := closing S rounds first
  let spoken := Session.converse S (S.engine.close parting.engine) parting
  obtain ⟨front, interrupts, hbefore, hquiet, hraised⟩ := beforeClose_eq S hvalue
  have hreleased : spoken.session.directory.size =
      (ran.events.accepted.map (·.peer)).eraseDups.length := by
    obtain ⟨host, token, hspoken⟩ := Session.converse_session S parting
      (S.engine.close parting.engine)
    rw [← size_closing S rounds session hvalue]
    exact congrArg (·.directory.size) hspoken
  have hcarried : (S.engine.close parting.engine).CarriedOut S ran.events.opened spoken.events
      () := by
    refine (Session.converse_carriedOut S parting _).mono fun connection => ?_
    rw [show parting.directory.entries = _ from entries_closing S rounds session hvalue,
      List.mem_reverse]
  have hevents : ran.events = front ++ .checked (some reason) :: (interrupts ++ .called .close ::
      (spoken.events ++ .engineDropped :: .pollerDropped :: .socketClosed ::
        (lastWords S spoken.session ++
          [.reported (.shutdownCompleted reason spoken.session.directory.size)]))) := by
    have hrun : ran.events = beforeClose S rounds first ++
        .called .close :: (spoken.events ++ lettingGo S reason spoken.session) :=
      run_events_of_value S hvalue
    rw [hrun, hbefore]
    simp [lettingGo]
  rw [hreleased] at hevents
  exact ⟨front, interrupts, spoken.events, lastWords S spoken.session, hevents, hquiet, hraised,
    rfl, hcarried, Concerns.converse S _ _, lastWords_logged S _⟩

end Reactor

namespace Reactor.Leaves

variable {S : Setting η ω} {closing : Session η ω} {trace front interrupts during logs : Trace}
  {reason : Termination} {released : Nat}

/-- Up to the end of the last call to the engine, that call is all there is of the shutdown. -/
theorem about_called (h : Leaves S closing trace reason released front interrupts during logs) :
    (front ++ .checked (some reason) :: (interrupts ++ .called .close :: during)).about .closing =
      [.called .close] := by
  rw [Trace.about_append, Trace.about_cons, Trace.about_append, Trace.about_cons, h.front_topics,
    Trace.about_eq_nil (Trace.topics_interrupts h.interrupts_eq) (by decide),
    Trace.about_eq_nil h.during_topics (by decide)]
  rfl

/-- Everything is let go once. -/
theorem about_trace (h : Leaves S closing trace reason released front interrupts during logs) :
    trace.about .closing = [.called .close, .engineDropped, .pollerDropped, .socketClosed,
      .reported (.shutdownCompleted reason released)] := by
  have hlogs : logs.about .closing = [] := by
    refine @Trace.about_eq_nil _ [.aside] _ (fun event hmem => ?_) (by decide)
    obtain ⟨diagnostic, rfl⟩ := h.logs_eq event hmem
    simp [Event.topic]
  have htrace : trace =
      (front ++ .checked (some reason) :: (interrupts ++ .called .close :: during)) ++
      ([.engineDropped, .pollerDropped, .socketClosed] ++ (logs ++
        [.reported (.shutdownCompleted reason released)])) := by
    simp [h.trace_eq]
  rw [htrace, Trace.about_append, h.about_called, Trace.about_append, Trace.about_append, hlogs]
  rfl

/-- Once the engine is closed, nothing goes out. -/
theorem about_before (h : Leaves S closing trace reason released front interrupts during logs)
    {before after : Trace} {event : Event} (hsplit : trace = before ++ event :: after)
    (hlink : event.topic = .link) : before.about .closing <+: [.called .close] := by
  have htrace : (front ++ .checked (some reason) :: (interrupts ++ .called .close :: during)) ++
      .engineDropped :: .pollerDropped :: .socketClosed :: (logs ++
        [.reported (.shutdownCompleted reason released)]) = before ++ event :: after := by
    rw [← hsplit, h.trace_eq]
    simp
  rcases Trace.split_append htrace with ⟨rest, hmem, -⟩ | ⟨more, -, hrest⟩
  · rw [← h.about_called, hmem, Trace.about_append]
    exact List.prefix_append _ _
  · have hmem : event ∈ Event.engineDropped :: .pollerDropped :: .socketClosed :: (logs ++
        [.reported (.shutdownCompleted reason released)]) := by
      simp [hrest]
    simp only [List.mem_cons, List.mem_append, List.not_mem_nil, or_false] at hmem
    rcases hmem with rfl | rfl | rfl | hmem | rfl
    · simp [Event.topic] at hlink
    · simp [Event.topic] at hlink
    · simp [Event.topic] at hlink
    · obtain ⟨diagnostic, rfl⟩ := h.logs_eq event hmem
      simp [Event.topic] at hlink
    · simp [Event.topic] at hlink

end Reactor.Leaves

/-! ## A run -/

namespace Reactor

variable (S : Setting η ω)

/-- A run that has not left its loop lets nothing go. -/
theorem about_closing_run {rounds : Nat} {session : Session η ω}
    (hvalue : (run S rounds session).value = none) :
    (run S rounds session).events.about .closing = [] := by
  rw [run_value] at hvalue
  rw [run_events]
  dsimp only
  rw [hvalue, Trace.about_append, Trace.about_append, about_closing_loop,
    (Concerns.writeConsole S prompt).about_eq_nil _ (by decide)]
  rfl

/-- Whatever goes out over the socket goes out before anything is let go but the engine's close. -/
theorem run_about_before (rounds : Nat) (session : Session η ω) {before after : Trace}
    {event : Event} :
    let first := { session with directory := .empty }
    (run S rounds first).events = before ++ event :: after → event.topic = .link →
      before.about .closing <+: [.called .close] := by
  intro first hsplit hlink
  cases hvalue : (run S rounds first).value with
  | none =>
      have hnone := about_closing_run S hvalue
      rw [hsplit, Trace.about_append, List.append_eq_nil_iff] at hnone
      rw [hnone.1]
      exact List.nil_prefix
  | some reason =>
      obtain ⟨front, interrupts, during, logs, h⟩ := run_leaves S rounds session hvalue
      exact h.about_before hsplit hlink

/-- The socket is open when something goes out. -/
theorem socketClosed_notMem_before (rounds : Nat) (session : Session η ω) {before after : Trace}
    {event : Event} :
    let first := { session with directory := .empty }
    (run S rounds first).events = before ++ event :: after → event.topic = .link →
      .socketClosed ∉ before := by
  intro first hsplit hlink hmem
  have hclosing := run_about_before S rounds session hsplit hlink
  have hclosed : .socketClosed ∈ before.about .closing := List.mem_filter.mpr ⟨hmem, rfl⟩
  simpa using hclosing.subset hclosed

end Reactor

/-- How a run ends that begins without connections, by the session in which it closes its
engine. -/
structure ShutsDown (S : Setting η ω) (closing : Session η ω) (trace : Trace)
    (value : Option Termination) : Prop where
  /-- A run leaves its loop when a look finds a reason to stop, and gives that reason. -/
  leaves : ∀ reason, value = some reason ↔ .checked (some reason) ∈ trace
  /-- Then it closes the engine and carries out what the engine does at its close, lets go of
  everything, and reports the reason and the number of peers that an acceptable datagram came
  from. -/
  letsGo : ∀ reason, value = some reason → ∃ front interrupts during logs : Trace,
    Reactor.Leaves S closing trace reason (trace.accepted.map (·.peer)).eraseDups.length front
      interrupts during logs
  /-- Each of these is done once, and none of it earlier. -/
  once : ∀ reason, value = some reason →
    trace.about .closing = [.called .close, .engineDropped, .pollerDropped, .socketClosed,
      .reported (.shutdownCompleted reason (trace.accepted.map (·.peer)).eraseDups.length)]
  /-- A run that has not left its loop lets nothing go. -/
  goesOn : value = none → trace.about .closing = []
  /-- Nothing goes out once the engine is closed. -/
  sends : ∀ (before after : Trace) (event : Event), trace = before ++ event :: after →
    event.topic = .link → before.about .closing <+: [.called .close]
  /-- Up to then, what is sent over the handle of a connection that was opened is given to the
  socket, also while the engine is being closed. -/
  resolves : ∀ (before after : Trace) (id : ConnectionId) (answer : Except LinkFailure Unit),
    trace = before ++ .sendAnswered id answer :: after →
      ∀ connection ∈ before.opened, connection.id = id → WentOut before id answer

/-- A run that leaves its loop lets go of everything, once and in order, and does not let go of a
connection before the engine is closed. -/
theorem run_shutsDown (S : Setting η ω) (rounds : Nat) (session : Session η ω) :
    let first := { session with directory := .empty }
    let ran := Reactor.run S rounds first
    ShutsDown S (Reactor.closing S rounds first) ran.events ran.value := by
  intro first ran
  have hleaves : ∀ reason, ran.value = some reason → ∃ front interrupts during logs : Trace,
      Reactor.Leaves S (Reactor.closing S rounds first) ran.events reason
        (ran.events.accepted.map (·.peer)).eraseDups.length front interrupts during logs := by
    intro reason hvalue
    exact Reactor.run_leaves S rounds session hvalue
  refine ⟨?_, hleaves, ?_, ?_, ?_, ?_⟩
  · intro reason
    constructor
    · exact Reactor.checked_of_run_value S rounds _
    · intro hmem
      obtain ⟨before, after, hsplit⟩ := List.append_of_mem hmem
      exact (Reactor.run_look S rounds _ hsplit).1
  · intro reason hvalue
    obtain ⟨front, interrupts, during, logs, h⟩ := hleaves reason hvalue
    exact h.about_trace
  · intro hvalue
    exact Reactor.about_closing_run S hvalue
  · intro before after event hsplit hlink
    exact Reactor.run_about_before S rounds session hsplit hlink
  · intro before after id answer hsplit
    have hopen : .socketClosed ∉ before :=
      Reactor.socketClosed_notMem_before S rounds session hsplit rfl
    exact (Resolved.run S rounds session).answered hsplit hopen

end DeviceConsole
