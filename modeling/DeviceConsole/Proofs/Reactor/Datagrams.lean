import DeviceConsole.Proofs.Reactor.Handles
import DeviceConsole.Proofs.Reactor.Rounds

/-!
# Datagrams during a run

A datagram of an acceptable size is handed to the engine in the round in which it is
received, whole and once.  One that is too long is reported and dropped, and neither it nor a
failure to receive changes anything.  A connection is opened for every peer that an accepted
datagram came from, at the first of them.

Main results:

- Theorem {lit}`Reactor.serveSocket_about`: what serving the socket does, datagram by datagram.
- Theorem {lit}`Keeps.loop`: every round keeps what is handed over in line with what was received.
- Theorem {lit}`Reception.deal`: what becomes of a datagram, and that nothing else does.
- Theorem {lit}`run_servesSocket`: a run delivers the datagrams that it accepts.
-/

namespace DeviceConsole

variable {η ω α β : Type}

/-! ## What is received and what becomes of it -/

/-- Whether a datagram, as the console gets to see it, has an acceptable size. -/
def Datagram.isAccepted (datagram : Datagram) : Bool :=
  datagram.bytes.length ≤ maxPacketSize

/-- A datagram of an acceptable size is seen whole. -/
theorem Session.cut_of_le {datagram : Datagram} (h : datagram.bytes.length ≤ maxPacketSize) :
    Session.cut datagram = datagram := by
  rw [Session.cut, List.take_of_length_le (by omega)]

/-- Of a longer datagram one byte too many is seen. -/
theorem Session.length_cut_of_lt {datagram : Datagram}
    (h : maxPacketSize < datagram.bytes.length) :
    (Session.cut datagram).bytes.length = maxPacketSize + 1 := by
  rw [Session.cut, List.length_take]
  omega

namespace Trace

/-- What the socket has answered. -/
def receipts (trace : Trace) : List (Except IoFailure Datagram) :=
  trace.filterMap fun
    | .received answer => some answer
    | _ => none

/-- The datagrams of an acceptable size that were received. -/
def accepted (trace : Trace) : List Datagram :=
  trace.filterMap fun
    | .received (.ok datagram) => if datagram.isAccepted then some datagram else none
    | _ => none

/-- The datagrams that were too long, as far as they were received. -/
def oversized (trace : Trace) : List Datagram :=
  trace.filterMap fun
    | .received (.ok datagram) => if datagram.isAccepted then none else some datagram
    | _ => none

/-- The datagrams that were handed to the engine, each from the peer of its connection. -/
def handed (trace : Trace) : List Datagram :=
  trace.filterMap fun
    | .called (.handlePacket connection bytes) => some ⟨connection.peer, bytes⟩
    | _ => none

/-- The reports of dropped datagrams: the peer and the size. -/
def dropped (trace : Trace) : List (SocketAddress × Nat) :=
  trace.filterMap fun
    | .reported (.datagramDropped peer size) => some (peer, size)
    | _ => none

@[simp]
theorem receipts_append (left right : Trace) :
    receipts (left ++ right) = receipts left ++ receipts right := by
  simp [receipts]

@[simp]
theorem accepted_append (left right : Trace) :
    accepted (left ++ right) = accepted left ++ accepted right := by
  simp [accepted]

@[simp]
theorem oversized_append (left right : Trace) :
    oversized (left ++ right) = oversized left ++ oversized right := by
  simp [oversized]

@[simp]
theorem handed_append (left right : Trace) :
    handed (left ++ right) = handed left ++ handed right := by
  simp [handed]

@[simp]
theorem dropped_append (left right : Trace) :
    dropped (left ++ right) = dropped left ++ dropped right := by
  simp [dropped]

/-! These views, and that of the connections that were opened, see what is about the socket. -/

@[simp]
theorem receipts_about (trace : Trace) : (trace.about .socket).receipts = trace.receipts := by
  refine filterMap_about (fun event htopic => ?_) trace
  split
  · exact absurd rfl htopic
  · rfl

@[simp]
theorem accepted_about (trace : Trace) : (trace.about .socket).accepted = trace.accepted := by
  refine filterMap_about (fun event htopic => ?_) trace
  split
  · exact absurd rfl htopic
  · rfl

@[simp]
theorem oversized_about (trace : Trace) : (trace.about .socket).oversized = trace.oversized := by
  refine filterMap_about (fun event htopic => ?_) trace
  split
  · exact absurd rfl htopic
  · rfl

@[simp]
theorem handed_about (trace : Trace) : (trace.about .socket).handed = trace.handed := by
  refine filterMap_about (fun event htopic => ?_) trace
  split
  · exact absurd rfl htopic
  · rfl

@[simp]
theorem dropped_about (trace : Trace) : (trace.about .socket).dropped = trace.dropped := by
  refine filterMap_about (fun event htopic => ?_) trace
  split
  · exact absurd rfl htopic
  · rfl

@[simp]
theorem opened_about (trace : Trace) : (trace.about .socket).opened = trace.opened := by
  refine filterMap_about (fun event htopic => ?_) trace
  split
  · exact absurd rfl htopic
  · rfl

end Trace

/-! ## Serving the socket -/

namespace Reactor

variable (S : Setting η ω) (session : Session η ω)

/-- What becomes of a datagram that is accepted: a connection is opened when its peer is new,
and the datagram is handed over with the connection of its peer. -/
def welcome (directory : Directory) (datagram : Datagram) : Trace :=
  let resolved := directory.resolve datagram.peer
  (if resolved.created then [.reported (.connectionOpened resolved.connection)] else []) ++
    [.called (.handlePacket resolved.connection datagram.bytes)]

theorem welcome_of_known {directory : Directory} {datagram : Datagram}
    (hknown : (directory.resolve datagram.peer).created = false) :
    welcome directory datagram =
      [.called (.handlePacket (directory.resolve datagram.peer).connection datagram.bytes)] := by
  simp [welcome, hknown]

theorem welcome_of_new {directory : Directory} {datagram : Datagram}
    (hnew : (directory.resolve datagram.peer).created = true) :
    welcome directory datagram =
      [.reported (.connectionOpened (directory.resolve datagram.peer).connection),
        .called (.handlePacket (directory.resolve datagram.peer).connection datagram.bytes)] := by
  simp [welcome, hnew]

/-- What becomes of what was received. -/
def reception (directory : Directory) : Except IoFailure Datagram → Trace
  | .error _ => []
  | .ok datagram =>
      if datagram.isAccepted then welcome directory datagram
      else [.reported (.datagramDropped datagram.peer datagram.bytes.length)]

theorem handlePacket_about (connection : Connection) (bytes : List UInt8) :
    (Session.handlePacket S connection bytes session).events.about .socket =
      [.called (.handlePacket connection bytes)] := by
  let noted := (Session.note S (.called (.handlePacket connection bytes)) session).session
  have hevents : (Session.handlePacket S connection bytes session).events =
      (Session.note S (.called (.handlePacket connection bytes)) session).events ++
        (Session.converse S
          (S.engine.handlePacket noted.engine connection bytes) noted).events := by
    simp [Session.handlePacket, noted]
  rw [hevents, Trace.about_append, Session.note_events,
    (Concerns.converse S _).about_eq_nil _ (by decide)]
  split <;> rfl

theorem acceptDatagram_about (datagram : Datagram) :
    (acceptDatagram S datagram session).events.about .socket =
      welcome session.directory datagram := by
  let resolved := session.directory.resolve datagram.peer
  have hevents : (acceptDatagram S datagram session).events =
      (Session.log S (.datagramReceived datagram.bytes.length datagram.peer) session).events ++
        ((Session.log S (.datagramContents datagram.bytes) session).events ++
          ((if resolved.created then [.reported (.connectionOpened resolved.connection)] else []) ++
            (Session.handlePacket S resolved.connection datagram.bytes
              { session with directory := resolved.directory }).events)) := by
    cases hcreated : resolved.created with
    | true => simp [acceptDatagram, Session.log_session, resolved, hcreated, Session.report]
    | false => simp [acceptDatagram, Session.log_session, resolved, hcreated]
  rw [hevents, Trace.about_append, Trace.about_append, Trace.about_append, handlePacket_about,
    (Concerns.log S _).about_eq_nil _ (by decide), (Concerns.log S _).about_eq_nil _ (by decide)]
  cases hcreated : resolved.created <;> simp [welcome, resolved, hcreated, Trace.about, Event.topic]

theorem receive_events :
    (Session.receive S session).events =
      (Session.attend S session).events ++ [.received (Session.receive S session).value] :=
  rfl

/-- What was received is what the host had, as far as the console gets to see it. -/
theorem receive_value :
    (Session.receive S session).value =
      (S.host.receive (Session.attend S session).session.host).1.map Session.cut :=
  rfl

/-- Receiving changes the host only, but for an interrupt. -/
theorem receive_session :
    (Session.receive S session).session =
      { session with
        host := (S.host.receive (Session.attend S session).session.host).2
        token := (Session.attend S session).session.token } := by
  obtain ⟨host, token, hattend⟩ := Travels.attend_session S session
  simp [Session.receive, hattend]

/-- Deals with what was received. -/
def deal : Except IoFailure Datagram → Activity (Session η ω) Unit
  | .error failure =>
      if !failure.isTransient then Session.log S (.receiveFailed failure) else pure ()
  | .ok datagram =>
      if datagram.isAccepted then acceptDatagram S datagram
      else Session.report (.datagramDropped datagram.peer datagram.bytes.length)

/-- Serving the socket receives once and deals with what was received. -/
theorem serveSocket_eq : serveSocket S = Session.receive S >>= deal S := by
  unfold serveSocket
  congr 1
  funext answer
  cases answer with
  | error failure => rfl
  | ok datagram =>
      by_cases hlong : datagram.bytes.length > maxPacketSize
      · simp [deal, Datagram.isAccepted, hlong, Nat.not_le.mpr hlong]
      · simp [deal, Datagram.isAccepted, hlong, Nat.not_lt.mp hlong]

theorem deal_of_lt {datagram : Datagram} (hlong : maxPacketSize < datagram.bytes.length) :
    deal S (.ok datagram) =
      Session.report (.datagramDropped datagram.peer datagram.bytes.length) := by
  rw [deal, if_neg]
  simpa [Datagram.isAccepted] using hlong

theorem deal_about (answer : Except IoFailure Datagram) :
    (deal S answer session).events.about .socket = reception session.directory answer := by
  cases answer with
  | error failure =>
      have hconcerns : Concerns [.aside] (deal S (.error failure)) := by
        rw [deal]
        split
        · exact Concerns.log S _
        · exact Concerns.pure _
      exact hconcerns.about_eq_nil session (by decide)
  | ok datagram =>
      rw [deal, reception]
      split
      · exact acceptDatagram_about S session datagram
      · rfl

/-- What was received is dealt with without receiving more. -/
theorem receipts_deal (answer : Except IoFailure Datagram) :
    (deal S answer session).events.receipts = [] := by
  rw [← Trace.receipts_about, deal_about]
  cases answer with
  | error failure => rfl
  | ok datagram =>
      rw [reception]
      split
      · cases hnew : (session.directory.resolve datagram.peer).created with
        | false => rw [welcome_of_known hnew]; rfl
        | true => rw [welcome_of_new hnew]; rfl
      · rfl

/-- What serving the socket does, datagram by datagram. -/
theorem serveSocket_about :
    (serveSocket S session).events.about .socket =
      .received (Session.receive S session).value ::
        reception session.directory (Session.receive S session).value := by
  have hreceive : (Session.receive S session).events.about .socket =
      [.received (Session.receive S session).value] := by
    rw [receive_events, Trace.about_append, (Concerns.attend S).about_eq_nil _ (by decide)]
    rfl
  have hdirectory : (Session.receive S session).session.directory = session.directory := by
    rw [receive_session]
  rw [serveSocket_eq, Activity.bind_events, Trace.about_append, hreceive, deal_about, hdirectory]
  rfl

end Reactor

/-! ## In line with what was received -/

/-- What the events so far say about the datagrams that were received. -/
structure Delivered (past : Trace) : Prop where
  /-- What was handed to the engine is what was accepted, in the same order, each once, over a
  connection to its sender. -/
  handed_eq : past.handed = past.accepted
  /-- What was reported as dropped is what was too long, with its sender. -/
  dropped_eq : past.dropped = past.oversized.map fun datagram =>
    (datagram.peer, datagram.bytes.length)
  /-- A connection was opened for every peer of an accepted datagram, once, and for no other. -/
  opened_eq : past.opened.map (·.peer) = (past.accepted.map (·.peer)).eraseDups

namespace Delivered

variable {past events : Trace} {session : Session η ω}

theorem empty : Delivered [] := by
  constructor <;> rfl

/-- More events are in line when they answer what they receive, and open a connection for every
peer that was not accepted before. -/
theorem extend (h : Delivered past) (hhanded : events.handed = events.accepted)
    (hdropped : events.dropped = events.oversized.map fun datagram =>
      (datagram.peer, datagram.bytes.length))
    (hopened : events.opened.map (·.peer) =
      ((events.accepted.map (·.peer)).removeAll (past.accepted.map (·.peer))).eraseDups) :
    Delivered (past ++ events) where
  handed_eq := by rw [Trace.handed_append, Trace.accepted_append, h.handed_eq, hhanded]
  dropped_eq := by
    rw [Trace.dropped_append, Trace.oversized_append, List.map_append, h.dropped_eq, hdropped]
  opened_eq := by
    rw [Trace.opened_append, Trace.accepted_append, List.map_append, List.map_append,
      List.eraseDups_append, h.opened_eq, hopened]

/-- Only what is about the socket matters. -/
theorem of_about (h : Delivered (past ++ events.about .socket)) : Delivered (past ++ events) where
  handed_eq := by simpa using h.handed_eq
  dropped_eq := by simpa using h.dropped_eq
  opened_eq := by simpa using h.opened_eq

theorem append (h : Delivered past) (hsocket : events.about .socket = []) :
    Delivered (past ++ events) := by
  apply of_about
  rwa [hsocket, List.append_nil]

/-- A connection is made for a peer when no datagram of its was accepted before. -/
theorem created_iff (h : Delivered past) (hdirected : Directed past session)
    (hopen : .socketClosed ∉ past) (peer : SocketAddress) :
    (session.directory.resolve peer).created ↔ peer ∉ past.accepted.map (·.peer) := by
  have hnew : session.directory.findByPeer? peer = none ↔ peer ∉ past.accepted.map (·.peer) := by
    rw [← List.mem_eraseDups, ← h.opened_eq, Directory.findByPeer?, hdirected.entries_eq hopen]
    simp
  rw [← hnew]
  cases hfound : session.directory.findByPeer? peer with
  | none => simp [Directory.resolve_of_findByPeer?_none hfound]
  | some connection => simp [Directory.resolve_of_findByPeer?_some hfound]

/-- An accepted datagram is handed over, and its peer is known from then on. -/
theorem welcome (h : Delivered past) (hdirected : Directed past session)
    (hopen : .socketClosed ∉ past) {datagram : Datagram} (haccepted : datagram.isAccepted) :
    Delivered (past ++ .received (.ok datagram) :: Reactor.welcome session.directory datagram) := by
  have hcreated := h.created_iff hdirected hopen datagram.peer
  cases hnew : (session.directory.resolve datagram.peer).created with
  | false =>
      have hknown : [datagram.peer].removeAll (past.accepted.map (·.peer)) = [] := by
        simpa [hnew, List.removeAll] using hcreated
      rw [Reactor.welcome_of_known hnew]
      apply h.extend
      · simp [Trace.handed, Trace.accepted, haccepted]
      · simp [Trace.dropped, Trace.oversized, haccepted]
      · rw [show Trace.accepted _ = [datagram] by simp [Trace.accepted, haccepted],
          List.map_singleton, hknown]
        rfl
  | true =>
      have hunknown : [datagram.peer].removeAll (past.accepted.map (·.peer)) = [datagram.peer] := by
        simpa [hnew, List.removeAll] using hcreated
      rw [Reactor.welcome_of_new hnew]
      apply h.extend
      · simp [Trace.handed, Trace.accepted, haccepted]
      · simp [Trace.dropped, Trace.oversized, haccepted]
      · rw [show Trace.accepted _ = [datagram] by simp [Trace.accepted, haccepted],
          List.map_singleton, hunknown]
        simp [Trace.opened, List.eraseDups_cons]

/-- What was received is answered as it should be. -/
theorem reception (h : Delivered past) (hdirected : Directed past session)
    (hopen : .socketClosed ∉ past) (answer : Except IoFailure Datagram) :
    Delivered (past ++ .received answer :: Reactor.reception session.directory answer) := by
  cases answer with
  | error failure => exact h.extend rfl rfl rfl
  | ok datagram =>
      rw [Reactor.reception]
      split
      · rename_i haccepted
        exact h.welcome hdirected hopen haccepted
      · rename_i hrefused
        apply h.extend <;>
          simp [Trace.handed, Trace.accepted, Trace.dropped, Trace.oversized, Trace.opened,
            hrefused]

end Delivered

/-! ## Round by round -/

/-- While the socket is open, the directory and the engine know of what was received. -/
structure Connected (past : Trace) (session : Session η ω) : Prop where
  directed : Directed past session
  isOpen : .socketClosed ∉ past
  delivered : Delivered past

/-- What holds of the events so far and the session holds again after the activity. -/
def Keeps (holds : Trace → Session η ω → Prop) (activity : Activity (Session η ω) α) : Prop :=
  ∀ past session, holds past session →
    holds (past ++ (activity session).events) (activity session).session

namespace Keeps

variable {holds : Trace → Session η ω → Prop}

theorem pure (value : α) : Keeps holds (pure value : Activity (Session η ω) α) := by
  intro past session h
  simpa using h

theorem bind {first : Activity (Session η ω) α} {next : α → Activity (Session η ω) β}
    (hfirst : Keeps holds first) (hnext : ∀ value, Keeps holds (next value)) :
    Keeps holds (first >>= next) := by
  intro past session h
  rw [Activity.bind_events, ← List.append_assoc]
  exact hnext _ _ _ (hfirst past session h)

theorem get_bind {next : Session η ω → Activity (Session η ω) β}
    (hnext : ∀ seen, Keeps holds (next seen)) : Keeps holds (Activity.get >>= next) := by
  intro past session h
  exact hnext session past session h

variable (S : Setting η ω)

/-- What has nothing to do with the socket leaves what is known of it. -/
theorem connected {activity : Activity (Session η ω) α} {topics : List Topic}
    (htravels : Travels Step activity) (hconcerns : Concerns topics activity)
    (hsocket : .socket ∉ topics) (hclosing : .closing ∉ topics) : Keeps Connected activity := by
  intro past session h
  constructor
  · exact (htravels session).keeps (fun h hstep => h.step hstep) h.directed
  · rw [List.mem_append]
    rintro (hpast | hevents)
    · exact h.isOpen hpast
    · exact hconcerns.topic_ne hevents .closing hclosing rfl
  · exact h.delivered.append (hconcerns.about_eq_nil session hsocket)

theorem serveSocket : Keeps Connected (Reactor.serveSocket S) := by
  intro past session h
  constructor
  · exact ((Travels.serveSocket S).steps session).keeps (fun h hstep => h.step hstep) h.directed
  · rw [List.mem_append]
    rintro (hpast | hevents)
    · exact h.isOpen hpast
    · exact (Concerns.serveSocket S).topic_ne hevents .closing (by decide) rfl
  · apply Delivered.of_about
    rw [Reactor.serveSocket_about]
    exact h.delivered.reception h.directed h.isOpen _

theorem serveInput (readable : Bool) : Keeps Connected (Reactor.serveInput S readable) :=
  connected (Travels.serveInput S readable) (Concerns.serveInput S readable) (by decide) (by decide)

theorem serve (answer : Except WaitFailure Readiness) :
    Keeps Connected (Reactor.serve S answer) := by
  rcases answer with failure | readiness
  · cases failure with
    | interrupted => exact pure _
    | failed cause =>
        exact connected (Travels.log S _).steps (Concerns.log S _) (by decide) (by decide)
  · cases readiness with
    | socket => exact serveSocket S
    | input => exact serveInput S true
    | idle =>
        refine get_bind fun session => ?_
        split
        · exact serveInput S false
        · exact pure _

theorem iterate : Keeps Connected (Reactor.iterate S) := by
  refine bind (connected (Travels.stepEngineOnce S).steps (Concerns.stepEngineOnce S) (by decide)
    (by decide)) fun deadline => ?_
  refine bind (connected (Travels.drain S _).steps (Concerns.drain S _) (by decide) (by decide))
    fun emptied => ?_
  split
  · refine get_bind fun session => ?_
    exact bind (connected (Travels.wait S _).steps (Concerns.wait S _) (by decide) (by decide))
      fun answer => bind (serve S answer) fun _ => pure _
  · exact pure _

/-- Every round keeps what was handed over in line with what was received. -/
theorem loop (rounds : Nat) : Keeps Connected (Reactor.loop S rounds) := by
  induction rounds with
  | zero => exact pure _
  | succ rounds ih =>
      refine bind (connected (Travels.check S) (Concerns.check S) (by decide) (by decide))
        fun reason => ?_
      cases reason with
      | some reason => exact pure _
      | none =>
          refine bind (iterate S) fun finished => ?_
          split
          · exact ih
          · exact pure _

end Keeps

/-- What a run received, it has answered. -/
theorem Delivered.run (S : Setting η ω) (rounds : Nat) (session : Session η ω) :
    Delivered (Reactor.run S rounds { session with directory := .empty }).events := by
  have hstart : Connected [] { session with directory := .empty } :=
    ⟨Directed.empty rfl, by simp, Delivered.empty⟩
  have hprompt := Keeps.connected (Travels.writeConsole S prompt).steps
    (Concerns.writeConsole S prompt) (by decide) (by decide) _ _ hstart
  have hloop := (Keeps.loop S rounds _ _ hprompt).delivered
  rw [Reactor.run_events, ← List.append_assoc]
  exact hloop.append ((Reactor.concerns_afterLoop S _).about_eq_nil _ (by decide))

/-! ## One datagram -/

/-- What the host gives when the socket is served, before any of it is cut off. -/
def Session.offer (S : Setting η ω) (session : Session η ω) : Except IoFailure Datagram :=
  (S.host.receive (Session.attend S session).session.host).1

namespace Reactor

variable (S : Setting η ω) (session : Session η ω)

/-- A failure to receive is told to the log at most. -/
theorem deal_error_events {failure : IoFailure} {event : Event}
    (hmem : event ∈ (deal S (.error failure) session).events) :
    event = .logged (.receiveFailed failure) := by
  rw [deal] at hmem
  split at hmem
  · rw [Session.log] at hmem
    split at hmem
    · simpa using hmem
    · simp at hmem
  · simp at hmem

/-- Unless a datagram of an acceptable size is offered, serving the socket changes the host only,
but for an interrupt. -/
theorem serveSocket_session
    (hnone : ∀ datagram, session.offer S = .ok datagram → maxPacketSize < datagram.bytes.length) :
    (serveSocket S session).session =
      { session with
        host := (S.host.receive (Session.attend S session).session.host).2
        token := (Session.attend S session).session.token } := by
  rw [serveSocket_eq, Activity.bind_session, ← receive_session, receive_value, ← Session.offer]
  cases hoffer : session.offer S with
  | error failure =>
      rw [Except.map, deal]
      split
      · exact Session.log_session S _ _
      · rfl
  | ok datagram =>
      have hlength := Session.length_cut_of_lt (hnone datagram hoffer)
      rw [Except.map, deal_of_lt S (by omega)]
      rfl

end Reactor

/-- What a session does with an answer of the socket, up to the end of the round. -/
structure Reception (S : Setting η ω) (session : Session η ω) (answer : Except IoFailure Datagram)
    (rest : Trace) : Prop where
  /-- The session looks for an interrupt, receives the answer, and deals with it. -/
  events_eq : (Reactor.serveSocket S session).events =
    (Session.attend S session).events ++ .received answer :: rest
  /-- A datagram of an acceptable size is received whole.  It is handed to the engine once, over a
  connection to its sender that may have been opened for it. -/
  accepted : ∀ datagram, session.offer S = .ok datagram →
    datagram.bytes.length ≤ maxPacketSize →
      answer = .ok datagram ∧ ∃ connection opening, connection.peer = datagram.peer ∧
        opening <+: [.reported (.connectionOpened connection)] ∧
        rest.about .socket = opening ++ [.called (.handlePacket connection datagram.bytes)]
  /-- A datagram that is too long is cut off and reported, and nothing else is done. -/
  dropped : ∀ datagram, session.offer S = .ok datagram →
    maxPacketSize < datagram.bytes.length →
      answer = .ok (Session.cut datagram) ∧
        rest = [.reported (.datagramDropped datagram.peer (maxPacketSize + 1))]
  /-- A failure is told to the log at most. -/
  failed : ∀ failure, session.offer S = .error failure →
    answer = .error failure ∧ ∀ event ∈ rest, event = .logged (.receiveFailed failure)
  /-- Without an acceptable datagram only the host goes on; the token changes for an interrupt
  that has arrived. -/
  unchanged : (∀ datagram, session.offer S = .ok datagram →
      maxPacketSize < datagram.bytes.length) →
    (Reactor.serveSocket S session).session =
      { session with
        host := (S.host.receive (Session.attend S session).session.host).2
        token := (Session.attend S session).session.token }

/-- Serving the socket is one reception. -/
theorem Reception.deal (S : Setting η ω) (session : Session η ω) :
    let received := Session.receive S session
    Reception S session received.value
      (Reactor.deal S received.value received.session).events := by
  intro received
  have hvalue : received.value = (session.offer S).map Session.cut :=
    Reactor.receive_value S session
  constructor
  · rw [Reactor.serveSocket_eq, Activity.bind_events, Reactor.receive_events, List.append_assoc]
    rfl
  · intro datagram hoffer hfits
    have hanswer : received.value = .ok datagram := by
      rw [hvalue, hoffer, Except.map, Session.cut_of_le hfits]
    let resolved := received.session.directory.resolve datagram.peer
    refine ⟨hanswer, resolved.connection,
      if resolved.created then [.reported (.connectionOpened resolved.connection)] else [],
      Directory.resolve_peer _ _, ?_, ?_⟩
    · split
      · exact List.prefix_rfl
      · exact List.nil_prefix
    · rw [Reactor.deal_about, hanswer, Reactor.reception,
        if_pos (by simpa [Datagram.isAccepted] using hfits)]
      rfl
  · intro datagram hoffer hlong
    have hanswer : received.value = .ok (Session.cut datagram) := by rw [hvalue, hoffer]; rfl
    have hlength := Session.length_cut_of_lt hlong
    refine ⟨hanswer, ?_⟩
    rw [hanswer, Reactor.deal_of_lt S (by omega), hlength]
    rfl
  · intro failure hoffer
    have hanswer : received.value = .error failure := by rw [hvalue, hoffer]; rfl
    refine ⟨hanswer, fun event hmem => ?_⟩
    rw [hanswer] at hmem
    exact Reactor.deal_error_events S received.session hmem
  · exact Reactor.serveSocket_session S session

namespace Reception

variable {S : Setting η ω} {answer : Except IoFailure Datagram} {rest : Trace}

/-- Where serving the socket receives an answer, there is its reception. -/
theorem of_serveSocket {session : Session η ω} {front : Trace}
    (hsplit : (Reactor.serveSocket S session).events = front ++ .received answer :: rest) :
    Reception S session answer rest := by
  have hreception := Reception.deal S session
  rw [hreception.events_eq] at hsplit
  rcases Trace.split_append hsplit with ⟨more, hattend, -⟩ | ⟨front, -, hsplit⟩
  · have hmem : .received answer ∈ (Session.attend S session).events := by simp [hattend]
    exact absurd rfl ((Concerns.attend S).topic_ne hmem .socket (by decide))
  · cases front with
    | nil =>
        obtain ⟨hanswer, hrest⟩ := List.cons.inj hsplit
        rw [← Event.received.inj hanswer, ← hrest]
        exact hreception
    | cons first front =>
        have hnone := Reactor.receipts_deal S (Session.receive S session).session
          (Session.receive S session).value
        rw [(List.cons.inj hsplit).2] at hnone
        simp [Trace.receipts] at hnone

/-- Where an answer of the socket is received, the socket is served. -/
theorem of_serve {found : Except WaitFailure Readiness} {session : Session η ω} {front : Trace}
    (hsplit : (Reactor.serve S found session).events = front ++ .received answer :: rest) :
    Reception S session answer rest := by
  by_cases hsocket : found = .ok .socket
  · subst hsocket
    exact of_serveSocket hsplit
  · have htopic := (Concerns.serve_of_ne S hsocket).mem_of_split hsplit
    simp [Event.topic] at htopic

end Reception

/-! ## A run -/

/-- What a run does with datagrams. -/
structure ServesSocket (S : Setting η ω) (trace : Trace) : Prop extends Delivered trace where
  /-- A connection is opened before anything is handed over with it. -/
  opened_first : ∀ (before after : Trace) (connection : Connection) (bytes : List UInt8),
    trace = before ++ .called (.handlePacket connection bytes) :: after →
      connection ∈ before.opened
  /-- What was received is dealt with in the same round. -/
  received : ∀ (before after : Trace) (answer : Except IoFailure Datagram),
    trace = before ++ .received answer :: after →
      ∃ (session : Session η ω) (rest next : Trace),
        after = rest ++ next ∧ next.MeetsLook ∧ Reception S session answer rest

/-- A run delivers the datagrams that it accepts, whole, once and in order, and drops the others
without a trace in the session. -/
theorem run_servesSocket (S : Setting η ω) (rounds : Nat) (session : Session η ω) :
    ServesSocket S (Reactor.run S rounds { session with directory := .empty }).events := by
  have hdelivered := Delivered.run S rounds session
  have htraffic := (Traffic.run S rounds session).2
  refine ⟨hdelivered, ?_, ?_⟩
  · intro before after connection bytes htrace
    exact htraffic.handed htrace
  · intro before after answer htrace
    obtain ⟨rest, next, hafter, hnext, hplace⟩ :=
      Reactor.run_split S rounds _ htrace (by simp [Event.topic])
    obtain ⟨found, session, front, hserve⟩ := hplace.served S (by simp [Event.topic])
    exact ⟨session, rest, next, hafter, hnext, Reception.of_serve hserve⟩

end DeviceConsole
