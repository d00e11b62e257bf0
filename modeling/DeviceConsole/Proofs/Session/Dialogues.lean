import DeviceConsole.Proofs.Session.Moves
import DeviceConsole.Proofs.Session.Topics

/-!
# Dialogues that are carried out

An engine that has the console's attention says what it does, one thing after the other, and goes
on by what became of each datagram.  A session that carries out such a dialogue leaves out none of
it: a wish to stop is raised, the log is told what it keeps, and a datagram is given to the socket
as it is when there is a connection for its handle.  What the engine learns is the answer of the
socket, or that there is no such connection.

Main results:

- Theorem {lit}`Dialogue.CarriedOut.mono`: it only matters which connections there are, and not in
  which order.
- Theorem {lit}`Session.converse_carriedOut`: a session carries out a dialogue to its end.
- Theorem {lit}`Session.converse_session`: a dialogue leaves the session as it was, but for the
  host and the token.
-/

namespace DeviceConsole

variable {η ω α β : Type}

/-! ## Values of a dialogue -/

/-- A value that a dialogue may have, by what was answered to its sends. -/
inductive Dialogue.Ends : Dialogue α → α → Prop where
  | finish (value : α) : Ends (.finish value) value
  | remark (said : Remark) {rest : Dialogue α} {value : α} (hrest : Ends rest value) :
      Ends (.remark said rest) value
  | send (connection : ConnectionId) (datagram : List UInt8)
      {resume : Except LinkFailure Unit → Dialogue α} (answer : Except LinkFailure Unit) {value : α}
      (hresume : Ends (resume answer) value) : Ends (.send connection datagram resume) value

theorem Dialogue.Ends.of_bind {dialogue : Dialogue α} {next : α → Dialogue β} {value : β}
    (h : (dialogue.bind next).Ends value) :
    ∃ middle, dialogue.Ends middle ∧ (next middle).Ends value := by
  induction dialogue with
  | finish middle => exact ⟨middle, .finish middle, h⟩
  | remark said rest ih =>
      cases h with
      | remark _ hrest =>
          obtain ⟨middle, hmiddle, hnext⟩ := ih hrest
          exact ⟨middle, .remark said hmiddle, hnext⟩
  | send connection datagram resume ih =>
      cases h with
      | send _ _ answer hresume =>
          obtain ⟨middle, hmiddle, hnext⟩ := ih answer hresume
          exact ⟨middle, .send connection datagram answer hmiddle, hnext⟩

/-! ## Events of a dialogue -/

/-- The events that a dialogue leaves and the value that it ends with, when it is carried out over
some connections. -/
inductive Dialogue.CarriedOut (S : Setting η ω) (connections : List Connection) :
    Dialogue α → Trace → α → Prop where
  | finish (value : α) : CarriedOut S connections (.finish value) [] value
  /-- A wish to stop is raised. -/
  | raise (reason : Termination) {rest : Dialogue α} {events : Trace} {value : α}
      (hrest : CarriedOut S connections rest events value) :
      CarriedOut S connections (.remark (.raise reason) rest) (.raised .engine reason :: events)
        value
  /-- The log is told what it keeps. -/
  | log (diagnostic : Diagnostic) {rest : Dialogue α} {events : Trace} {value : α}
      (hrest : CarriedOut S connections rest events value) :
      CarriedOut S connections (.remark (.log diagnostic) rest)
        ((if S.keeps diagnostic then [.logged diagnostic] else []) ++ events) value
  /-- A datagram for a connection is given to the socket, and the engine learns what the host has
  made of it.  An interrupt and the log may come up in front of it. -/
  | send {connection : Connection} (hmem : connection ∈ connections) {id : ConnectionId}
      (hid : connection.id = id) (datagram : List UInt8) (host : ω) {answer : Except IoFailure Unit}
      (hanswer : answer = (S.host.send host connection.peer datagram).1)
      {resume : Except LinkFailure Unit → Dialogue α} {asides events : Trace} {value : α}
      (hasides : ∀ event ∈ asides,
        event = .raised .interrupt .interrupted ∨ ∃ diagnostic, event = .logged diagnostic)
      (hresume : CarriedOut S connections (resume (answer.mapError .send)) events value) :
      CarriedOut S connections (.send id datagram resume)
        (asides ++ .sent connection.peer datagram :: .sendAnswered id (answer.mapError .send) ::
          events) value
  /-- A datagram for no connection goes nowhere, and the engine learns that. -/
  | lose {id : ConnectionId} (hnone : ∀ connection ∈ connections, connection.id ≠ id)
      (datagram : List UInt8) {resume : Except LinkFailure Unit → Dialogue α} {events : Trace}
      {value : α} (hresume : CarriedOut S connections (resume (.error (.unknownConnection id)))
        events value) :
      CarriedOut S connections (.send id datagram resume)
        (.sendAnswered id (.error (.unknownConnection id)) :: events) value

namespace Dialogue.CarriedOut

variable {S : Setting η ω} {connections others : List Connection} {dialogue : Dialogue α}
  {events : Trace} {value : α}

/-- It only matters which connections there are, and not in which order. -/
theorem mono (h : dialogue.CarriedOut S connections events value)
    (hsame : ∀ connection, connection ∈ connections ↔ connection ∈ others) :
    dialogue.CarriedOut S others events value := by
  induction h with
  | finish value => exact .finish value
  | raise reason _ ih => exact .raise reason ih
  | log diagnostic _ ih => exact .log diagnostic ih
  | send hmem hid datagram host hanswer hasides _ ih =>
      exact .send ((hsame _).mp hmem) hid datagram host hanswer hasides ih
  | lose hnone datagram _ ih =>
      exact .lose (fun connection hmem => hnone connection ((hsame connection).mpr hmem)) datagram
        ih

theorem ends (h : dialogue.CarriedOut S connections events value) : dialogue.Ends value := by
  induction h with
  | finish value => exact .finish value
  | raise reason _ ih => exact .remark _ ih
  | log diagnostic _ ih => exact .remark _ ih
  | send _ _ datagram _ _ _ _ ih => exact .send _ datagram _ ih
  | lose _ datagram _ ih => exact .send _ datagram _ ih

end Dialogue.CarriedOut

/-! ## Sessions that speak with the engine -/

namespace Session

variable (S : Setting η ω) (session : Session η ω)

/-- A datagram for no connection goes nowhere. -/
theorem sendOver_of_none {id : ConnectionId} (hnone : session.directory.get? id = none)
    (datagram : List UInt8) :
    sendOver S id datagram session = ⟨.error (.unknownConnection id), [], session⟩ := by
  rw [sendOver, Activity.get_bind_run, hnone]
  rfl

/-- A datagram for a connection is given to the socket. -/
theorem sendOver_of_some {id : ConnectionId} {entry : Connection}
    (hfound : session.directory.get? id = some entry) (datagram : List UInt8) :
    ∃ asides host token,
      sendOver S id datagram session =
        ⟨(S.host.send host entry.peer datagram).1.mapError .send,
          asides ++ [.sent entry.peer datagram],
          { session with host := (S.host.send host entry.peer datagram).2, token }⟩ ∧
      ∀ event ∈ asides,
        event = .raised .interrupt .interrupted ∨ ∃ diagnostic, event = .logged diagnostic := by
  let told : Diagnostic := .sendingDatagram id entry.peer datagram.length
  obtain ⟨host, token, hattended⟩ := Travels.attend_session S session
  refine ⟨(log S told session).events ++ (attend S session).events, host, token, ?_, ?_⟩
  · rw [sendOver, Activity.get_bind_run, hfound]
    simp only [Activity.bind_run, log_session, note, hattended, Activity.emit_run,
      Activity.modifyGet_run, Activity.pure_run, List.append_nil, List.append_assoc, told]
  · intro event hmem
    rcases List.mem_append.mp hmem with hlogged | hraised
    · right
      rw [log] at hlogged
      split at hlogged
      · exact ⟨told, by simpa using hlogged⟩
      · simp at hlogged
    · left
      rcases attend_events S session with hnone | hone
      · simp [hnone] at hraised
      · simpa [hone] using hraised

/-- A session carries out a dialogue to its end, over the connections that it has. -/
theorem converse_carriedOut (dialogue : Dialogue α) :
    dialogue.CarriedOut S session.directory.entries (converse S dialogue session).events
      (converse S dialogue session).value := by
  induction dialogue generalizing session with
  | finish value => exact .finish value
  | remark said rest ih =>
      cases said with
      | raise reason =>
          exact .raise reason (ih { session with token := session.token.raise reason })
      | log diagnostic =>
          have hrest := ih (log S diagnostic session).session
          rw [log_session] at hrest
          have hevents : (converse S (.remark (.log diagnostic) rest) session).events =
              (if S.keeps diagnostic then [.logged diagnostic] else []) ++
                (converse S rest session).events := by
            rw [converse, Activity.bind_events, heed, log_session, log]
            split <;> rfl
          have hvalue : (converse S (.remark (.log diagnostic) rest) session).value =
              (converse S rest session).value := by
            rw [converse, Activity.bind_value, heed, log_session]
          rw [hevents, hvalue]
          exact .log diagnostic hrest
  | send id datagram resume ih =>
      have hran : converse S (.send id datagram resume) session =
          let sent := sendOver S id datagram session
          let rest := converse S (resume sent.value) sent.session
          ⟨rest.value, sent.events ++ .sendAnswered id sent.value :: rest.events, rest.session⟩ :=
        rfl
      rw [hran]
      -- The handle leads to a connection, or there is none of that handle.
      cases hfound : session.directory.get? id with
      | none =>
          rw [sendOver_of_none S session hfound]
          refine .lose (fun connection hmem hid => ?_) datagram (ih _ session)
          rw [Directory.get?, List.find?_eq_none] at hfound
          exact hfound connection hmem (by simpa using hid)
      | some entry =>
          obtain ⟨asides, host, token, hsent, hasides⟩ := sendOver_of_some S session hfound datagram
          rw [hsent]
          have hid : entry.id = id := by simpa using List.find?_some hfound
          have hrest := ih ((S.host.send host entry.peer datagram).1.mapError .send)
            { session with host := (S.host.send host entry.peer datagram).2, token }
          have hout := Dialogue.CarriedOut.send (List.mem_of_find?_eq_some hfound) hid datagram host
            rfl hasides hrest
          simpa using hout

/-- A dialogue leaves the session as it was, but for the host and the token. -/
theorem converse_session (dialogue : Dialogue α) : ∃ host token,
    (converse S dialogue session).session = { session with host, token } := by
  induction dialogue generalizing session with
  | finish value => exact ⟨session.host, session.token, rfl⟩
  | remark said rest ih =>
      obtain ⟨token, hheeded⟩ := heedAll_session S session [said]
      have hsaid : (heed S said session).session = { session with token } := by
        simpa [heedAll] using hheeded
      obtain ⟨host, last, hrest⟩ := ih (heed S said session).session
      exact ⟨host, last, by rw [converse, Activity.bind_session, hrest, hsaid]⟩
  | send id datagram resume ih =>
      have hresume : (converse S (.send id datagram resume) session).session =
          let sent := sendOver S id datagram session
          (converse S (resume sent.value) sent.session).session := rfl
      rw [hresume]
      cases hfound : session.directory.get? id with
      | none =>
          rw [sendOver_of_none S session hfound]
          exact ih _ session
      | some entry =>
          obtain ⟨asides, host, token, hsent, -⟩ := sendOver_of_some S session hfound datagram
          obtain ⟨hostAfter, last, hrest⟩ := ih _
            { session with host := (S.host.send host entry.peer datagram).2, token }
          rw [hsent]
          exact ⟨hostAfter, last, hrest⟩

end Session

end DeviceConsole
