import DeviceConsole.Proofs.Session.Moves
import DeviceConsole.Reactor

/-!
# Moves of the reactor

The reactor, and the commands that it carries out, do nothing but the moves of a session;
only the loop itself takes lines and looks whether to stop.

Main results:

- Theorem {lit}`Travels.dispatch`: carrying out a line is a chain of moves.
- Theorem {lit}`Travels.run`: a run of the console is a chain of steps.
-/

namespace DeviceConsole.Travels

variable {η ω : Type} (S : Setting η ω)

/-! ## Commands and outcomes -/

theorem showAnswer (answer : Except CommandFailure Reply) : Travels Move (showAnswer S answer) := by
  rcases answer with failure | reply
  · cases failure with
    | output cause => exact pure _
    | _ => exact write S _
  · cases reply with
    | accepted => exact write S _
    | done => exact pure _

theorem submitted (device : DeviceId) (request : Request) :
    Travels Move (Command.submitted S device request) := by
  refine bind (submit S device request) fun answer => ?_
  cases answer with
  | ok _ => exact pure _
  | error status => exact pure _

theorem shown (text : String) : Travels Move (Command.shown S text) := by
  refine bind (write S text) fun result => ?_
  cases result with
  | ok _ => exact pure _
  | error failure => exact pure _

theorem execute (command : Command) : Travels Move (command.execute S) := by
  cases command with
  | list => exact bind (get_bind fun session => Chain.refl session) fun _ => shown S _
  | overview => exact shown S _
  | explain entry => exact shown S _
  | submit device request => exact submitted S device request
  | write device path text isPartial =>
      refine bind (decode S path text) fun records => ?_
      split
      · exact submitted S _ _
      · exact pure _
  | create device path text =>
      refine bind (decode S path text) fun records => ?_
      split
      · exact submitted S _ _
      · exact pure _
  | quit => exact bind (raise _ _ (by decide)) fun _ => pure _

theorem dispatch (line : List Char) : Travels Move (dispatch S line) := by
  unfold DeviceConsole.dispatch
  split
  · exact pure _
  · rename_i typed _
    refine bind ?_ fun answer => bind (log S _) fun _ => showAnswer S answer
    cases typed.command with
    | ok command => exact execute S command
    | error failure => exact pure _

theorem logUnknown (outcome : Outcome) : Travels Move (logUnknown S outcome) := by
  unfold DeviceConsole.logUnknown
  split
  · split
    · exact log S _
    · exact pure _
  · exact pure _

theorem deliver (outcome : Outcome) : Travels Move (deliver S outcome) :=
  bind (get_bind fun session => Chain.refl session) fun _ =>
    bind (logUnknown S outcome) fun _ => writeFlushed S _

/-! ## One round -/

theorem drain (patience : Nat) : Travels Move (Reactor.drain S patience) := by
  induction patience with
  | zero => exact pure _
  | succ patience ih =>
      refine bind (popOutcome S) fun outcome => ?_
      cases outcome with
      | none => exact pure _
      | some outcome => exact bind (deliver S outcome) fun _ => bind (logFailure S _ _) fun _ => ih

/-- An accepted datagram is handed over with the connection that its peer was resolved to. -/
theorem acceptDatagram (datagram : Datagram) :
    Travels Move (Reactor.acceptDatagram S datagram) := by
  unfold Reactor.acceptDatagram
  refine bind (log S _) fun _ => bind (log S _) fun _ => ?_
  intro session
  let resolved := session.directory.resolve datagram.peer
  have hresolve := Chain.single (Move.resolve session datagram.peer)
  have hfound : resolved.directory.findByPeer? resolved.connection.peer =
      some resolved.connection := by
    rw [Directory.resolve_peer]
    exact session.directory.findByPeer?_resolve_self datagram.peer
  have hhand := @handlePacket _ _ S { session with directory := resolved.directory }
    resolved.connection hfound datagram.bytes
  have hboth := hresolve.trans hhand
  cases hcreated : resolved.created with
  | true => simpa [resolved, hcreated, Session.report] using hboth
  | false => simpa [resolved, hcreated] using hboth

theorem serveSocket : Travels Move (Reactor.serveSocket S) := by
  unfold Reactor.serveSocket
  refine bind (receive S) fun answer => ?_
  cases answer with
  | error failure =>
      dsimp only
      split
      · exact log S _
      · exact pure _
  | ok datagram =>
      dsimp only
      split
      · exact emit rfl
      · exact acceptDatagram S datagram

theorem promptAgain : Travels Move (Reactor.promptAgain S) := by
  refine bind (isRaised S) fun raised => ?_
  split
  · exact writeConsole S _
  · exact writeConsole S _

theorem runCommand (line : String) : Travels Move (Reactor.runCommand S line) := by
  unfold Reactor.runCommand
  dsimp only
  split
  · exact bind (dispatch S _) fun _ => bind (logFailure S _ _) fun _ =>
      bind (writeConsole S _) fun _ => promptAgain S
  · exact promptAgain S

theorem serveLine (line : OperatorLine) : Travels Move (Reactor.serveLine S line) := by
  cases line with
  | command text => exact runCommand S text
  | overlong =>
      exact bind (log S _) fun _ => bind (writeConsole S _) fun _ =>
        bind (writeConsole S _) fun _ => writeConsole S _

/-- The input stops the console only when it is used up. -/
theorem endInput : Travels Move (Reactor.endInput S) := by
  refine get_bind fun session => ?_
  split
  · rename_i hexhausted
    have hlog := log S .inputClosed session
    rw [Session.log_session] at hlog
    simpa [Session.raise] using
      hlog.trans (Chain.single (Move.raise session .endOfInput .quit fun _ => hexhausted))
  · exact Chain.refl session

theorem serveNextLine : Travels Step (Reactor.serveNextLine S) := by
  refine bind takeLine fun line => ?_
  cases line with
  | some line => exact (serveLine S line).steps
  | none => exact (endInput S).steps

theorem serveInput (readable : Bool) : Travels Step (Reactor.serveInput S readable) := by
  unfold Reactor.serveInput
  dsimp only
  split
  · exact bind (fillInput S).steps fun _ => bind (logFailure S _ _).steps fun _ => serveNextLine S
  · exact serveNextLine S

theorem serve (answer : Except WaitFailure Readiness) : Travels Step (Reactor.serve S answer) := by
  rcases answer with failure | readiness
  · cases failure with
    | interrupted => exact pure _
    | failed cause => exact (log S _).steps
  · cases readiness with
    | socket => exact (serveSocket S).steps
    | input => exact serveInput S true
    | idle =>
        refine get_bind fun session => ?_
        split
        · exact serveInput S false session
        · exact Chain.refl session

theorem stepEngineOnce : Travels Move (Reactor.stepEngine S) := by
  unfold Reactor.stepEngine
  refine bind (stepEngine S) fun answer => ?_
  cases answer with
  | ok duration => exact pure _
  | error failure => exact bind (log S _) fun _ => pure _

theorem iterate : Travels Step (Reactor.iterate S) := by
  unfold Reactor.iterate
  refine bind (stepEngineOnce S).steps fun deadline =>
    bind (drain S S.patience).steps fun emptied => ?_
  split
  · refine get_bind fun session => ?_
    exact bind (wait S _).steps (fun answer => bind (serve S answer) fun _ => pure _) session
  · exact pure _

/-! ## The run -/

theorem loop (rounds : Nat) : Travels Step (Reactor.loop S rounds) := by
  induction rounds with
  | zero => exact pure _
  | succ rounds ih =>
      refine bind (check S) fun reason => ?_
      cases reason with
      | some reason => exact pure _
      | none =>
          refine bind (iterate S) fun finished => ?_
          split
          · exact ih
          · exact pure _

theorem shutdown (reason : Termination) : Travels Move (Reactor.shutdown S reason) := by
  unfold Reactor.shutdown
  refine bind (closeEngine S) fun _ => bind (emit rfl) fun _ => bind (emit rfl) fun _ => ?_
  rw [← bind_assoc]
  refine bind ?_ fun released => bind flush fun _ => bind (logFailure S _ _) fun _ => emit rfl
  intro session
  simpa using Chain.single (Move.release session)

/-- A run of the console is a chain of steps. -/
theorem run (rounds : Nat) : Travels Step (Reactor.run S rounds) := by
  unfold Reactor.run
  refine bind (writeConsole S _).steps fun _ => bind (loop S rounds) fun reason => ?_
  cases reason with
  | none => exact pure _
  | some reason => exact bind (shutdown S reason).steps fun _ => pure _

end DeviceConsole.Travels
