import DeviceConsole.Proofs.Session.Screens
import DeviceConsole.Reactor

/-!
# A run with a broken screen

Neither a screen that breaks nor what the log keeps changes what a run does.  Whatever is
written may fail, and the failure is told to the log and forgotten: the next thing is done
as if the text had been shown.

Main results:

- Theorem {lit}`Alongside.execute`: a command asks the same of the engine on either screen,
  and an answer that could not be shown stands for one that was.
- Theorem {lit}`Alongside.run`: a run goes along with that on a screen that never fails.
- Theorem {lit}`run_alike`: a run on any screen, with any log, does the same as on one that
  never fails, and shows the first part of the same text.
-/

namespace DeviceConsole

variable {η ω : Type}

/-- Answers that are the same, or of which the first could not be shown. -/
def SameAnswer (answer other : Except CommandFailure Reply) : Prop :=
  answer = other ∨ (∃ cause, answer = .error (.output cause)) ∧ other = .ok .done

namespace Alongside

variable (S : Setting η ω) (keeps : Diagnostic → Bool)

/-! ## Commands and outcomes -/

/-- The answer to a command is shown, or there is none to show. -/
theorem showAnswer {answer other : Except CommandFailure Reply} (hsame : SameAnswer answer other) :
    Alongside (fun _ _ => True) (showAnswer (S.logging keeps) answer) (showAnswer S other) := by
  have hwrite : ∀ text, Alongside (fun _ _ => True) (Session.write (S.logging keeps) text)
      (Session.write S text) :=
    fun text => (write S keeps text).weaken fun _ _ _ => trivial
  rcases hsame with rfl | ⟨⟨cause, rfl⟩, rfl⟩
  · rcases answer with failure | reply
    · cases failure with
      | output cause => exact pure trivial
      | _ => exact hwrite _
    · cases reply with
      | accepted => exact hwrite _
      | done => exact pure trivial
  · exact pure trivial

theorem submitted (device : DeviceId) (request : Request) :
    Alongside SameAnswer (Command.submitted (S.logging keeps) device request)
      (Command.submitted S device request) := by
  refine bind (submit S keeps device request) fun answer => ?_
  cases answer with
  | ok _ => exact pure (Or.inl rfl)
  | error status => exact pure (Or.inl rfl)

/-- A text that could not be shown is an answer of its own. -/
theorem shown (text : String) :
    Alongside SameAnswer (Command.shown (S.logging keeps) text) (Command.shown S text) := by
  refine bind_related (write S keeps text) ?_
  intro result other hother
  subst hother
  cases result with
  | ok _ => exact pure (Or.inl rfl)
  | error failure => exact pure (Or.inr ⟨⟨failure, rfl⟩, rfl⟩)

/-- A command asks the same of the engine on either screen. -/
theorem execute (command : Command) :
    Alongside SameAnswer (command.execute (S.logging keeps)) (command.execute S) := by
  cases command with
  | list =>
      refine bind (get_bind fun console session => pure rfl) fun registry => ?_
      exact shown S keeps _
  | overview => exact shown S keeps _
  | explain entry => exact shown S keeps _
  | submit device request => exact submitted S keeps device request
  | write device path text isPartial =>
      refine bind (decode S keeps path text) fun records => ?_
      cases Command.writePayload records text isPartial with
      | ok payload => exact submitted S keeps _ _
      | error failure => exact pure (Or.inl rfl)
  | create device path text =>
      refine bind (decode S keeps path text) fun records => ?_
      have hfallbacks : (S.logging keeps).fallbacks = S.fallbacks := rfl
      rw [hfallbacks]
      cases Command.createRecords S.fallbacks records path text with
      | ok records => exact submitted S keeps _ _
      | error failure => exact pure (Or.inl rfl)
  | quit => exact bind (raise _ _) fun _ => pure (Or.inl rfl)

theorem attempt (command : Except CommandFailure Command) :
    Alongside SameAnswer (Command.attempt (S.logging keeps) command)
      (Command.attempt S command) := by
  cases command with
  | ok command => exact execute S keeps command
  | error failure => exact pure (Or.inl rfl)

theorem dispatch (line : List Char) :
    Alongside (fun _ _ => True) (dispatch (S.logging keeps) line) (dispatch S line) := by
  unfold DeviceConsole.dispatch
  cases Command.ofLine? line with
  | none => exact pure trivial
  | some typed =>
      refine bind_related (attempt S keeps typed.command) fun answer other hsame => ?_
      refine bind (mute (IsMute.log _ _) (IsMute.log _ _)) fun _ => ?_
      exact showAnswer S keeps hsame

theorem logUnknown (outcome : Outcome) :
    Alongside Eq (logUnknown (S.logging keeps) outcome) (logUnknown S outcome) := by
  have hmute : ∀ setting : Setting η ω, IsMute (DeviceConsole.logUnknown setting outcome) := by
    intro setting
    unfold DeviceConsole.logUnknown
    split
    · split
      · exact IsMute.log _ _
      · exact IsMute.pure
    · exact IsMute.pure
  exact mute (hmute _) (hmute _)

theorem deliver (outcome : Outcome) :
    Alongside MayFail (deliver (S.logging keeps) outcome) (deliver S outcome) := by
  refine bind (get_bind fun console session => pure rfl) fun registry => ?_
  exact bind (logUnknown S keeps outcome) fun _ => writeFlushed S keeps _

/-! ## One round -/

theorem stepEngineOnce :
    Alongside Eq (Reactor.stepEngine (S.logging keeps)) (Reactor.stepEngine S) := by
  refine bind (stepEngine S keeps) fun answer => ?_
  cases answer with
  | ok duration => exact pure rfl
  | error failure => exact bind (log S keeps _) fun _ => pure rfl

theorem drain (patience : Nat) :
    Alongside Eq (Reactor.drain (S.logging keeps) patience) (Reactor.drain S patience) := by
  induction patience with
  | zero => exact pure rfl
  | succ patience ih =>
      refine bind (popOutcome S keeps) fun outcome => ?_
      cases outcome with
      | none => exact pure rfl
      | some outcome =>
          exact bind_related (deliver S keeps outcome) fun _ _ _ =>
            bind (logFailure S keeps _ _ _) fun _ => ih

theorem acceptDatagram (datagram : Datagram) :
    Alongside Eq (Reactor.acceptDatagram (S.logging keeps) datagram)
      (Reactor.acceptDatagram S datagram) := by
  refine bind (log S keeps _) fun _ => bind (log S keeps _) fun _ => ?_
  refine bind (modifyGet (fun _ _ => rfl) fun _ => rfl) fun resolved => ?_
  dsimp only
  split
  · exact bind (emit rfl) fun _ => handlePacket S keeps _ _
  · exact handlePacket S keeps _ _

theorem serveSocket :
    Alongside Eq (Reactor.serveSocket (S.logging keeps)) (Reactor.serveSocket S) := by
  refine bind (receive S keeps) fun answer => ?_
  cases answer with
  | error failure =>
      dsimp only
      split
      · exact log S keeps _
      · exact pure rfl
  | ok datagram =>
      dsimp only
      split
      · exact emit rfl
      · exact acceptDatagram S keeps datagram

theorem promptAgain :
    Alongside Eq (Reactor.promptAgain (S.logging keeps)) (Reactor.promptAgain S) := by
  refine bind (isRaised S keeps) fun raised => ?_
  split
  · exact writeConsole S keeps _
  · exact writeConsole S keeps _

theorem runCommand (line : String) :
    Alongside Eq (Reactor.runCommand (S.logging keeps) line) (Reactor.runCommand S line) := by
  unfold Reactor.runCommand
  dsimp only
  split
  · exact bind_related (dispatch S keeps _) fun _ _ _ => bind (logFailure S keeps _ _ _) fun _ =>
      bind (writeConsole S keeps _) fun _ => promptAgain S keeps
  · exact promptAgain S keeps

theorem serveLine (line : OperatorLine) :
    Alongside Eq (Reactor.serveLine (S.logging keeps) line) (Reactor.serveLine S line) := by
  cases line with
  | command text => exact runCommand S keeps text
  | overlong =>
      exact bind (log S keeps _) fun _ => bind (writeConsole S keeps _) fun _ =>
        bind (writeConsole S keeps _) fun _ => writeConsole S keeps _

theorem endInput : Alongside Eq (Reactor.endInput (S.logging keeps)) (Reactor.endInput S) := by
  refine get_bind fun console session => ?_
  dsimp only
  split
  · exact bind (log S keeps _) fun _ => raise _ _
  · exact pure rfl

theorem serveNextLine :
    Alongside Eq (Reactor.serveNextLine (S.logging keeps)) (Reactor.serveNextLine S) := by
  refine bind takeLine fun line => ?_
  cases line with
  | some line => exact serveLine S keeps line
  | none => exact endInput S keeps

theorem serveInput (readable : Bool) :
    Alongside Eq (Reactor.serveInput (S.logging keeps) readable)
      (Reactor.serveInput S readable) := by
  unfold Reactor.serveInput
  dsimp only
  split
  · exact bind (fillInput S keeps) fun _ => bind (logFailure S keeps _ _ _) fun _ =>
      serveNextLine S keeps
  · exact serveNextLine S keeps

theorem serve (answer : Except WaitFailure Readiness) :
    Alongside Eq (Reactor.serve (S.logging keeps) answer) (Reactor.serve S answer) := by
  rcases answer with failure | readiness
  · cases failure with
    | interrupted => exact pure rfl
    | failed cause => exact log S keeps _
  · cases readiness with
    | socket => exact serveSocket S keeps
    | input => exact serveInput S keeps true
    | idle =>
        refine get_bind fun console session => ?_
        dsimp only
        split
        · exact serveInput S keeps false
        · exact pure rfl

theorem iterate : Alongside Eq (Reactor.iterate (S.logging keeps)) (Reactor.iterate S) := by
  refine bind (stepEngineOnce S keeps) fun deadline => ?_
  refine bind (drain S keeps S.patience) fun emptied => ?_
  cases emptied with
  | false => exact pure rfl
  | true =>
      refine get_bind fun console session => ?_
      refine bind (wait S keeps _) fun answer => ?_
      exact bind (serve S keeps answer) fun _ => pure rfl

/-! ## The run -/

theorem loop (rounds : Nat) :
    Alongside Eq (Reactor.loop (S.logging keeps) rounds) (Reactor.loop S rounds) := by
  induction rounds with
  | zero => exact pure rfl
  | succ rounds ih =>
      refine bind (check S keeps) fun reason => ?_
      cases reason with
      | some reason => exact pure rfl
      | none =>
          refine bind (iterate S keeps) fun finished => ?_
          cases finished with
          | false => exact pure rfl
          | true => exact ih

theorem shutdown (reason : Termination) :
    Alongside Eq (Reactor.shutdown (S.logging keeps) reason) (Reactor.shutdown S reason) := by
  refine bind (closeEngine S keeps) fun _ => bind (emit rfl) fun _ =>
    bind (emit rfl) fun _ => bind (emit rfl) fun _ => ?_
  refine bind (modifyGet (fun _ _ => rfl) fun _ => rfl) fun released => ?_
  exact bind_related flush fun _ _ _ => bind (logFailure S keeps _ _ _) fun _ => emit rfl

/-- A run goes along with that on a screen that never fails. -/
theorem run (rounds : Nat) :
    Alongside Eq (Reactor.run (S.logging keeps) rounds) (Reactor.run S rounds) := by
  refine bind (writeConsole S keeps _) fun _ => bind (loop S keeps rounds) fun reason => ?_
  cases reason with
  | none => exact pure rfl
  | some reason => exact bind (shutdown S keeps reason) fun _ => pure rfl

end Alongside

/-- A run on any screen, with any log, stops for the same reason as on a screen that never
fails and does the same until then, and its screen takes the first part of the same text. -/
theorem run_alike (S : Setting η ω) (keeps : Diagnostic → Bool) (rounds : Nat)
    (session : Session η ω) (console : Console) :
    let limited := Reactor.run { S with keeps } rounds { session with console }
    let free := Reactor.run S rounds { session with console := .working }
    limited.value = free.value ∧ limited.events.conduct = free.events.conduct ∧
      limited.events.output = console.clip free.events.output := by
  have halike := Alongside.run S keeps rounds console { session with console := .working } rfl
  exact ⟨halike.value, halike.conduct, halike.output⟩

end DeviceConsole
