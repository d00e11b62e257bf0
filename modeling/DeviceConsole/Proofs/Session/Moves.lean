import DeviceConsole.Session

/-!
# Moves of a session

Whatever a session does is put together from a few kinds of moves.  A move says which
events it leaves and what it changes: the operator's input changes only when the stream is
read or a line is taken, the directory only when a peer is resolved or everything is let
go, and a datagram is sent only to the peer that the directory has for its connection.  An
invariant of a session is shown once for each kind of move, and then holds at every point
of every run.

Taking a line and looking whether to stop mark the rounds of a run.  They are kept apart
from the other moves, so that an activity of the others is known to do neither.

Main results:

- Theorem {lit}`Chain.keeps`: what every link of a chain keeps holds at its end.
- Theorem {lit}`Chain.always`: what every link shows at its events is shown at every point.
- Theorem {lit}`Travels.converse`: what an engine does during a call is a chain of moves.
-/

namespace DeviceConsole

variable {η ω α β : Type}

/-- Whether an event leaves the session as it was and asks nothing of it. -/
def Event.isPlain : Event → Bool
  | wrote _ | raised _ _ | read _ | lineTaken _ | sent _ _ | sendAnswered _ _ => false
  | checked _ | socketClosed => false
  | called (.handlePacket _ _) => false
  | reported (.connectionOpened _) => false
  | _ => true

/-- One move of a session: the session before it, its events, and the session after it. -/
inductive Move : Session η ω → Trace → Session η ω → Prop where
  /-- Something is told, asked or answered. -/
  | tell (session : Session η ω) {event : Event} (hplain : event.isPlain) :
      Move session [event] session
  /-- The engine or the host goes on. -/
  | turn (session : Session η ω) (engine : η) (host : ω) :
      Move session [] { session with engine, host }
  /-- The console is asked to stop.  The end of the input asks only when the input is used
  up. -/
  | raise (session : Session η ω) (source : RaiseSource) (reason : Termination)
      (hsource : source = .endOfInput → session.input.isExhausted) :
      Move session [.raised source reason] { session with token := session.token.raise reason }
  /-- Text is written to the screen. -/
  | write (session : Session η ω) (text : String) :
      Move session [.wrote (session.console.write (Utf8.encode text)).accepted]
        { session with console := (session.console.write (Utf8.encode text)).console }
  /-- The operator's stream is read. -/
  | read (session : Session η ω) (answer : Except IoFailure (List UInt8))
      (hopen : session.input.closed = false) :
      Move session [.read answer] { session with input := (session.input.fill answer).2 }
  /-- A datagram is sent over a connection. -/
  | send (session : Session η ω) {id : ConnectionId} {entry : Connection}
      (hfound : session.directory.get? id = some entry) (datagram : List UInt8)
      (result : Except IoFailure Unit) (host : ω) :
      Move session [.sent entry.peer datagram, .sendAnswered id (result.mapError .send)]
        { session with host }
  /-- A datagram has no connection to go over. -/
  | lose (session : Session η ω) {id : ConnectionId} (hnone : session.directory.get? id = none) :
      Move session [.sendAnswered id (.error (.unknownConnection id))] session
  /-- The peer of a datagram is resolved. -/
  | resolve (session : Session η ω) (peer : SocketAddress) :
      Move session
        (if (session.directory.resolve peer).created then
          [.reported (.connectionOpened (session.directory.resolve peer).connection)] else [])
        { session with directory := (session.directory.resolve peer).directory }
  /-- A datagram is handed to the engine with the connection of its peer. -/
  | hand (session : Session η ω) {connection : Connection}
      (hfound : session.directory.findByPeer? connection.peer = some connection)
      (bytes : List UInt8) :
      Move session [.called (.handlePacket connection bytes)] session
  /-- The socket is closed and every connection is let go. -/
  | release (session : Session η ω) :
      Move session [.socketClosed] { session with directory := session.directory.release }

/-- One step of a run: a move, or one of the two things that mark its rounds. -/
inductive Step : Session η ω → Trace → Session η ω → Prop where
  | move {session next : Session η ω} {events : Trace} (move : Move session events next) :
      Step session events next
  /-- A line of the operator's is taken. -/
  | takeLine (session : Session η ω) {line : OperatorLine} {rest : List OperatorLine}
      (hwait : session.input.lines = line :: rest) :
      Step session [.lineTaken line]
        { session with input := { session.input with lines := rest } }
  /-- The loop looks whether to stop. -/
  | look (session : Session η ω) : Step session [.checked session.token] session

/-- Whether an event marks a round. -/
def Event.isMark : Event → Bool
  | lineTaken _ | checked _ => true
  | _ => false

theorem Event.isMark_of_isPlain {event : Event} (hplain : event.isPlain) :
    event.isMark = false := by
  cases event <;> simp_all [isPlain, isMark]

/-- A move marks no round. -/
theorem Move.not_isMark {session next : Session η ω} {events : Trace}
    (move : Move session events next) : ∀ event ∈ events, event.isMark = false := by
  cases move with
  | tell hplain => simp [Event.isMark_of_isPlain hplain]
  | resolve peer => split <;> simp [Event.isMark]
  | _ => simp [Event.isMark]

/-! ## Chains -/

/-- Links in a row, with their events in a row. -/
inductive Chain (link : Session η ω → Trace → Session η ω → Prop) :
    Session η ω → Trace → Session η ω → Prop where
  | refl (session : Session η ω) : Chain link session [] session
  | head {first second last : Session η ω} {events rest : Trace} (front : link first events second)
      (back : Chain link second rest last) : Chain link first (events ++ rest) last

namespace Chain

variable {link wider : Session η ω → Trace → Session η ω → Prop}
variable {first second last : Session η ω} {events rest : Trace}

theorem single (front : link first events second) : Chain link first events second := by
  simpa using Chain.head front (Chain.refl second)

theorem trans (front : Chain link first events second) (back : Chain link second rest last) :
    Chain link first (events ++ rest) last := by
  induction front with
  | refl session => exact back
  | head front _ ih =>
      rw [List.append_assoc]
      exact Chain.head front (ih back)

/-- A chain of links of one kind is one of every wider kind. -/
theorem mono (hwider : ∀ {session events next}, link session events next →
      wider session events next)
    (chain : Chain link first events last) : Chain wider first events last := by
  induction chain with
  | refl session => exact Chain.refl session
  | head front _ ih => exact Chain.head (hwider front) ih

/-- What is so of the events of every link is so of the events of a chain. -/
theorem forall_events {allowed : Event → Prop}
    (hlink : ∀ {session events next}, link session events next → ∀ event ∈ events, allowed event)
    (chain : Chain link first events last) : ∀ event ∈ events, allowed event := by
  induction chain with
  | refl session => simp
  | head front _ ih =>
      intro event hmem
      rcases List.mem_append.mp hmem with hfront | hback
      · exact hlink front event hfront
      · exact ih event hback

/-- What every link keeps, given the events so far, holds at the end of a chain. -/
theorem keeps {holds : Trace → Session η ω → Prop}
    (hlink : ∀ {past session events next},
      holds past session → link session events next → holds (past ++ events) next)
    (chain : Chain link first events last) {past : Trace} (hfirst : holds past first) :
    holds (past ++ events) last := by
  induction chain generalizing past with
  | refl session => simpa using hfirst
  | head front _ ih =>
      rw [← List.append_assoc]
      exact ih (hlink hfirst front)

/-- What every link shows at each of its events is shown at every point of a chain. -/
theorem always {holds : Trace → Session η ω → Prop} {shown : Trace → Prop}
    (hlink : ∀ {past session events next},
      holds past session → link session events next → holds (past ++ events) next)
    (hshown : ∀ {past session events next},
      holds past session → link session events next →
        ∀ now, now <+: events → shown (past ++ now))
    (chain : Chain link first events last) {past : Trace} (hfirst : holds past first)
    (hpast : shown past) : ∀ now, now <+: events → shown (past ++ now) := by
  induction chain generalizing past with
  | refl session =>
      intro now hnow
      rw [List.prefix_nil.mp hnow, List.append_nil]
      exact hpast
  | @head _ _ _ events rest front _ ih =>
      intro now hnow
      rcases List.prefix_or_prefix_of_prefix hnow (List.prefix_append events rest) with
        hfront | ⟨back, rfl⟩
      · exact hshown hfirst front now hfront
      · rw [← List.append_assoc]
        exact ih (hlink hfirst front) (hshown hfirst front _ List.prefix_rfl) back
          ((List.prefix_append_right_inj events).mp hnow)

end Chain

/-! ## Activities that are chains -/

/-- Whatever the activity does from any session is a chain. -/
def Travels (link : Session η ω → Trace → Session η ω → Prop)
    (activity : Activity (Session η ω) α) : Prop :=
  ∀ session, Chain link session (activity session).events (activity session).session

namespace Travels

variable {link : Session η ω → Trace → Session η ω → Prop}

theorem pure (value : α) : Travels link (pure value : Activity (Session η ω) α) := by
  intro session
  exact Chain.refl session

theorem bind {first : Activity (Session η ω) α} {next : α → Activity (Session η ω) β}
    (hfirst : Travels link first) (hnext : ∀ value, Travels link (next value)) :
    Travels link (first >>= next) := by
  intro session
  exact (hfirst session).trans (hnext _ _)

/-- What follows a look at the session may use what it saw. -/
theorem get_bind {next : Session η ω → Activity (Session η ω) β}
    (hnext : ∀ session,
      Chain link session (next session session).events (next session session).session) :
    Travels link (Activity.get >>= next) := by
  intro session
  simpa using hnext session

/-- A chain of moves is a chain of steps. -/
theorem steps {activity : Activity (Session η ω) α} (h : Travels Move activity) :
    Travels Step activity := by
  intro session
  exact (h session).mono Step.move

/-- An activity that is a chain of moves marks no round. -/
theorem not_isMark {activity : Activity (Session η ω) α} (h : Travels Move activity)
    (session : Session η ω) : ∀ event ∈ (activity session).events, event.isMark = false :=
  (h session).forall_events Move.not_isMark

theorem emit {event : Event} (hplain : event.isPlain) :
    Travels Move (Activity.emit event : Activity (Session η ω) Unit) := by
  intro session
  exact Chain.single (Move.tell session hplain)

theorem modifyEngine (engine : η) :
    Travels Move (Activity.modify fun session : Session η ω => { session with engine }) := by
  intro session
  exact Chain.single (Move.turn session engine session.host)

theorem modifyHost (ask : ω → α × ω) :
    Travels Move (Activity.modifyGet fun session : Session η ω =>
      ((ask session.host).1, { session with host := (ask session.host).2 })) := by
  intro session
  exact Chain.single (Move.turn session session.engine _)

/-! ### Telling, stopping and writing -/

variable (S : Setting η ω)

theorem log (diagnostic : Diagnostic) : Travels Move (Session.log S diagnostic) := by
  unfold Session.log
  split
  · exact emit rfl
  · exact pure _

theorem raise (source : RaiseSource) (reason : Termination) (hsource : source ≠ .endOfInput) :
    Travels Move (Session.raise source reason : Activity (Session η ω) Unit) := by
  intro session
  exact Chain.single (Move.raise session source reason fun heq => absurd heq hsource)

theorem attend : Travels Move (Session.attend S) := by
  unfold Session.attend
  refine bind (modifyHost S.host.interrupt) ?_
  intro arrived
  split
  · exact raise _ _ (by decide)
  · exact pure _

/-- Looking for an interrupt concerns the host and the token only. -/
theorem attend_session (session : Session η ω) :
    ∃ host token, (Session.attend S session).session = { session with host, token } := by
  cases harrived : (S.host.interrupt session.host).1 with
  | false => exact ⟨(S.host.interrupt session.host).2, session.token, by
      simp [Session.attend, harrived]⟩
  | true => exact ⟨(S.host.interrupt session.host).2, some .interrupted, by
      simp [Session.attend, Session.raise, harrived, TerminationToken.raise]⟩

theorem note {event : Event} (hplain : event.isPlain) : Travels Move (Session.note S event) :=
  bind (attend S) fun _ => emit hplain

theorem write (text : String) : Travels Move (Session.write S text) := by
  unfold Session.write
  refine bind (attend S) ?_
  intro _ session
  exact Chain.single (Move.write session text)

theorem flush : Travels Move (Session.flush : Activity (Session η ω) _) :=
  get_bind fun session => Chain.refl session

theorem writeFlushed (text : String) : Travels Move (Session.writeFlushed S text) := by
  unfold Session.writeFlushed
  refine bind (write S text) ?_
  intro result
  cases result with
  | ok _ => exact flush
  | error failure => exact pure _

theorem logFailure (diagnostic : IoFailure → Diagnostic) (result : Except IoFailure Unit) :
    Travels Move (Session.logFailure S diagnostic result) := by
  cases result with
  | ok _ => exact pure _
  | error failure => exact log S _

theorem writeConsole (text : String) : Travels Move (Session.writeConsole S text) :=
  bind (writeFlushed S text) fun _ => logFailure S _ _

/-! ### The engine -/

theorem heed (remark : Remark) : Travels Move (Session.heed S remark) := by
  cases remark with
  | raise reason => exact raise _ _ (by decide)
  | log diagnostic => exact log S diagnostic

theorem heedAll (remarks : List Remark) : Travels Move (Session.heedAll S remarks) := by
  induction remarks with
  | nil => exact pure _
  | cons remark rest ih => exact bind (heed S remark) fun _ => ih

theorem sendOver (connection : ConnectionId) (datagram : List UInt8) :
    Travels Move (do
      let answer ← Session.sendOver S connection datagram
      Activity.emit (.sendAnswered connection answer)
      return answer) := by
  intro session
  cases hfound : session.directory.get? connection with
  | none =>
      simpa [Session.sendOver, hfound] using Chain.single (Move.lose session hfound)
  | some entry =>
      obtain ⟨host, token, hattend⟩ := attend_session S session
      have hlog := log S (.sendingDatagram connection entry.peer datagram.length) session
      have hfront := attend S session
      have hsend : Move { session with host, token }
          [.sent entry.peer datagram, .sendAnswered connection
            ((S.host.send host entry.peer datagram).1.mapError .send)]
          { session with host := (S.host.send host entry.peer datagram).2, token } :=
        Move.send { session with host, token } hfound datagram _ _
      rw [Session.log_session] at hlog
      rw [hattend] at hfront
      simpa [Session.sendOver, Session.note, hfound, hattend] using
        (hlog.trans hfront).trans (Chain.single hsend)

theorem converse (dialogue : Dialogue α) : Travels Move (Session.converse S dialogue) := by
  induction dialogue with
  | finish value => exact pure value
  | remark said rest ih => exact bind (heed S said) fun _ => ih
  | send connection datagram resume ih =>
      have hbind := bind (sendOver S connection datagram) ih
      simpa [Session.converse] using hbind

theorem stepEngine : Travels Move (Session.stepEngine S) := by
  unfold Session.stepEngine
  refine bind (note S rfl) fun _ => ?_
  refine get_bind fun session => ?_
  exact bind (converse S _) (fun answer => bind (modifyEngine _) fun _ =>
    bind (emit rfl) fun _ => pure _) session

theorem decode (path : Path) (text : String) : Travels Move (Session.decode S path text) := by
  unfold Session.decode
  refine bind (note S rfl) fun _ => ?_
  refine get_bind fun session => ?_
  exact bind (heedAll S _) (fun _ => bind (emit rfl) fun _ => pure _) session

theorem submit (device : DeviceId) (request : Request) :
    Travels Move (Session.submit S device request) := by
  unfold Session.submit
  refine bind (note S rfl) fun _ => ?_
  refine get_bind fun session => ?_
  exact bind (heedAll S _) (fun _ => bind (modifyEngine _) fun _ =>
    bind (emit rfl) fun _ => pure _) session

theorem popOutcome : Travels Move (Session.popOutcome S) := by
  unfold Session.popOutcome
  refine bind (note S rfl) fun _ => ?_
  refine get_bind fun session => ?_
  exact bind (heedAll S _) (fun _ => bind (modifyEngine _) fun _ =>
    bind (emit rfl) fun _ => pure _) session

theorem closeEngine : Travels Move (Session.closeEngine S) := by
  unfold Session.closeEngine
  refine bind (note S rfl) fun _ => ?_
  exact get_bind fun session => converse S _ session

theorem handlePacket {session : Session η ω} {connection : Connection}
    (hfound : session.directory.findByPeer? connection.peer = some connection)
    (bytes : List UInt8) :
    Chain Move session (Session.handlePacket S connection bytes session).events
      (Session.handlePacket S connection bytes session).session := by
  obtain ⟨host, token, hattend⟩ := attend_session S session
  have hfront := attend S session
  rw [hattend] at hfront
  have hhand : Move { session with host, token } [.called (.handlePacket connection bytes)]
      { session with host, token } :=
    Move.hand { session with host, token } hfound bytes
  have hrest := bind (converse S (S.engine.handlePacket session.engine connection bytes))
    modifyEngine { session with host, token }
  simpa [Session.handlePacket, Session.note, hattend] using
    (hfront.trans (Chain.single hhand)).trans hrest

/-! ### The host -/

theorem wait (timeout : Duration) : Travels Move (Session.wait S timeout) := by
  unfold Session.wait
  refine bind (attend S) fun _ => ?_
  exact bind (modifyHost fun host => S.host.wait host timeout) fun _ =>
    bind (emit rfl) fun _ => pure _

theorem receive : Travels Move (Session.receive S) := by
  unfold Session.receive
  refine bind (attend S) fun _ => ?_
  exact bind
    (modifyHost fun host => ((S.host.receive host).1.map Session.cut, (S.host.receive host).2))
    fun _ => bind (emit rfl) fun _ => pure _

theorem fillInput : Travels Move (Session.fillInput S) := by
  intro session
  cases hclosed : session.input.closed with
  | true => simpa [Session.fillInput, hclosed] using Chain.refl session
  | false =>
      obtain ⟨host, token, hattend⟩ := attend_session S session
      have hfront := attend S session
      rw [hattend] at hfront
      have hturn := Move.turn { session with host, token } session.engine (S.host.read host).2
      have hread : Move { session with host := (S.host.read host).2, token } _ _ :=
        Move.read { session with host := (S.host.read host).2, token } (S.host.read host).1 hclosed
      simpa [Session.fillInput, hclosed, hattend] using
        (hfront.trans (Chain.single hturn)).trans (Chain.single hread)

theorem isRaised : Travels Move (Session.isRaised S) :=
  bind (attend S) fun _ => get_bind fun session => Chain.refl session

/-! ### The marks of a round -/

theorem takeLine :
    Travels Step (Session.takeLine : Activity (Session η ω) (Option OperatorLine)) := by
  intro session
  cases hlines : session.input.lines with
  | nil => simpa [Session.takeLine, LineAssembler.takeLine, hlines] using Chain.refl session
  | cons line rest =>
      simpa [Session.takeLine, LineAssembler.takeLine, hlines] using
        Chain.single (Step.takeLine session hlines)

theorem check : Travels Step (Session.check S) := by
  unfold Session.check
  refine bind (attend S).steps fun _ => get_bind fun session => ?_
  exact Chain.single (Step.look session)

end Travels

namespace Session

variable (S : Setting η ω) (session : Session η ω)

/-- What an engine does on the side concerns the token only. -/
theorem heedAll_session (remarks : List Remark) :
    ∃ token, (heedAll S remarks session).session = { session with token } := by
  induction remarks generalizing session with
  | nil => exact ⟨session.token, rfl⟩
  | cons remark rest ih =>
      cases remark with
      | raise reason =>
          obtain ⟨token, hrest⟩ := ih { session with token := session.token.raise reason }
          exact ⟨token, hrest⟩
      | log diagnostic =>
          obtain ⟨token, hrest⟩ := ih (log S diagnostic session).session
          rw [log_session] at hrest
          exact ⟨token, by rw [← hrest, heedAll, Activity.bind_session]; simp [heed]⟩

end Session

end DeviceConsole
