import DeviceConsole.Proofs.Session.Topics
import DeviceConsole.Reactor

/-!
# Rounds of a run

A run is the prompt at its start, rounds with a look of the loop in front of each, and the
shutdown.  A round does one thing after the other, and what each of its parts concerns says
where an event of a run can be.  What follows an event up to the next look is the rest of the
round that the event is in.

Main results:

- Theorem {lit}`Concerns.iterate`: a round looks at nothing and lets nothing go.
- Theorem {lit}`Reactor.run_split`: every event of a run has its place in the start, a round,
  in front of a look, or in the shutdown.
- Theorem {lit}`Reactor.Place.served`: what is not for the engine, a wait or the shutdown is in
  what a round serves.
- Theorem {lit}`Reactor.run_look`: a look that finds a reason is followed by the shutdown only.
-/

namespace DeviceConsole

variable {η ω : Type}

/-! ## What the parts of a round concern -/

namespace Concerns

variable (S : Setting η ω)

theorem showAnswer (answer : Except CommandFailure Reply) :
    Concerns [.aside, .screen] (showAnswer S answer) := by
  rcases answer with failure | reply
  · cases failure with
    | output cause => exact pure _
    | _ => exact write S _
  · cases reply with
    | accepted => exact write S _
    | done => exact pure _

theorem submitted (device : DeviceId) (request : Request) :
    Concerns [.aside, .request] (Command.submitted S device request) := by
  refine bind (submit S device request) fun answer => ?_
  cases answer with
  | ok _ => exact pure _
  | error status => exact pure _

theorem shown (text : String) : Concerns [.aside, .screen] (Command.shown S text) := by
  refine bind (write S text) fun result => ?_
  cases result with
  | ok _ => exact pure _
  | error failure => exact pure _

/-- Only one command asks to stop. -/
theorem execute {command : Command} (hcommand : command ≠ .quit) :
    Concerns [.aside, .screen, .request] (command.execute S) := by
  cases command with
  | list => exact bind (bind get fun _ => pure _) fun _ => (shown S _).mono (by decide)
  | overview => exact (shown S _).mono (by decide)
  | explain entry => exact (shown S _).mono (by decide)
  | submit device request => exact (submitted S device request).mono (by decide)
  | write device path text isPartial =>
      refine bind ((decode S path text).mono (by decide)) fun records => ?_
      split
      · exact (submitted S _ _).mono (by decide)
      · exact pure _
  | create device path text =>
      refine bind ((decode S path text).mono (by decide)) fun records => ?_
      split
      · exact (submitted S _ _).mono (by decide)
      · exact pure _
  | quit => exact absurd rfl hcommand

/-- A line that does not ask to stop does not stop anything. -/
theorem dispatch_of_ne {line : List Char}
    (hquit : ∀ typed, Command.ofLine? line = some typed → typed.command ≠ .ok .quit) :
    Concerns [.aside, .screen, .request] (dispatch S line) := by
  unfold DeviceConsole.dispatch
  split
  · exact pure _
  · rename_i typed hline
    refine bind ?_ fun answer => bind ((log S _).mono (by decide)) fun _ =>
      (showAnswer S answer).mono (by decide)
    cases hcommand : typed.command with
    | error failure => exact pure _
    | ok command =>
        refine execute S ?_
        rintro rfl
        exact hquit typed hline hcommand

/-- A line that asks to stop does nothing else but to tell the log. -/
theorem dispatch_of_quit {line : List Char} {typed : Command.Typed}
    (hline : Command.ofLine? line = some typed) (hquit : typed.command = .ok .quit) :
    DeviceConsole.dispatch S line = (do
      Session.raise .command .quit
      Session.log S (.commandDispatched typed.keyword (.ok .done))
      return .ok ()) := by
  simp [DeviceConsole.dispatch, hline, hquit, Command.attempt, Command.execute,
    DeviceConsole.showAnswer]

theorem dispatch (line : List Char) :
    Concerns [.aside, .screen, .request, .stop] (dispatch S line) := by
  by_cases hquit : ∃ typed, Command.ofLine? line = some typed ∧ typed.command = .ok .quit
  · obtain ⟨typed, hline, hquit⟩ := hquit
    rw [dispatch_of_quit S hline hquit]
    exact bind (raise (by decide)) fun _ => bind ((log S _).mono (by decide)) fun _ => pure _
  · refine (dispatch_of_ne S fun typed hline hcommand => ?_).mono (by decide)
    exact hquit ⟨typed, hline, hcommand⟩

theorem logUnknown (outcome : Outcome) : Concerns [.aside] (logUnknown S outcome) := by
  unfold DeviceConsole.logUnknown
  split
  · split
    · exact log S _
    · exact pure _
  · exact pure _

theorem deliver (outcome : Outcome) : Concerns [.aside, .screen] (deliver S outcome) :=
  bind (bind get fun _ => pure _) fun _ => bind ((logUnknown S outcome).mono (by decide)) fun _ =>
    writeFlushed S _

theorem stepEngineOnce : Concerns [.aside, .link, .step] (Reactor.stepEngine S) := by
  refine bind (stepEngine S) fun answer => ?_
  cases answer with
  | ok duration => exact pure _
  | error failure => exact bind ((log S _).mono (by decide)) fun _ => pure _

theorem drain (patience : Nat) : Concerns [.aside, .screen, .queue] (Reactor.drain S patience) := by
  induction patience with
  | zero => exact pure _
  | succ patience ih =>
      refine bind ((popOutcome S).mono (by decide)) fun outcome => ?_
      cases outcome with
      | none => exact pure _
      | some outcome =>
          exact bind ((deliver S outcome).mono (by decide)) fun _ =>
            bind ((logFailure S _ _).mono (by decide)) fun _ => ih

theorem acceptDatagram (datagram : Datagram) :
    Concerns [.aside, .link, .socket] (Reactor.acceptDatagram S datagram) := by
  refine bind ((log S _).mono (by decide)) fun _ => bind ((log S _).mono (by decide)) fun _ =>
    bind (modifyGet _) fun resolved => ?_
  split
  · exact bind (emit (by simp [Event.topic])) fun _ => handlePacket S _ _
  · exact handlePacket S _ _

theorem serveSocket : Concerns [.aside, .link, .socket] (Reactor.serveSocket S) := by
  refine bind ((receive S).mono (by decide)) fun answer => ?_
  cases answer with
  | error failure =>
      dsimp only
      split
      · exact (log S _).mono (by decide)
      · exact pure _
  | ok datagram =>
      dsimp only
      split
      · exact emit (by simp [Event.topic])
      · exact acceptDatagram S datagram

theorem promptAgain : Concerns [.aside, .screen] (Reactor.promptAgain S) := by
  refine bind ((isRaised S).mono (by decide)) fun raised => ?_
  split
  · exact writeConsole S _
  · exact writeConsole S _

theorem runCommand (line : String) :
    Concerns [.aside, .screen, .request, .stop] (Reactor.runCommand S line) := by
  unfold Reactor.runCommand
  dsimp only
  split
  · exact bind (dispatch S _) fun _ => bind ((logFailure S _ _).mono (by decide)) fun _ =>
      bind ((writeConsole S _).mono (by decide)) fun _ => (promptAgain S).mono (by decide)
  · exact (promptAgain S).mono (by decide)

theorem serveOverlong : Concerns [.aside, .screen] (Reactor.serveLine S .overlong) :=
  bind ((log S _).mono (by decide)) fun _ => bind (writeConsole S _) fun _ =>
    bind (writeConsole S _) fun _ => writeConsole S _

theorem serveLine (line : OperatorLine) :
    Concerns [.aside, .screen, .request, .stop] (Reactor.serveLine S line) := by
  cases line with
  | command text => exact runCommand S text
  | overlong => exact (serveOverlong S).mono (by decide)

theorem endInput : Concerns [.aside, .stop] (Reactor.endInput S) := by
  refine bind get fun session => ?_
  split
  · exact bind ((log S _).mono (by decide)) fun _ => raise (by decide)
  · exact pure _

theorem serveNextLine :
    Concerns [.aside, .screen, .request, .stop, .line] (Reactor.serveNextLine S) := by
  refine bind (takeLine.mono (by decide)) fun line => ?_
  cases line with
  | some line => exact (serveLine S line).mono (by decide)
  | none => exact (endInput S).mono (by decide)

theorem serveInput (readable : Bool) :
    Concerns [.aside, .screen, .request, .stop, .line, .stream]
      (Reactor.serveInput S readable) := by
  unfold Reactor.serveInput
  dsimp only
  split
  · exact bind ((fillInput S).mono (by decide)) fun _ =>
      bind ((logFailure S _ _).mono (by decide)) fun _ => (serveNextLine S).mono (by decide)
  · exact (serveNextLine S).mono (by decide)

/-- What is not the socket is the operator. -/
theorem serve_of_ne {found : Except WaitFailure Readiness} (hsocket : found ≠ .ok .socket) :
    Concerns [.aside, .screen, .request, .stop, .line, .stream] (Reactor.serve S found) := by
  rcases found with failure | readiness
  · cases failure with
    | interrupted => exact pure _
    | failed cause => exact (log S _).mono (by decide)
  · cases readiness with
    | socket => exact absurd rfl hsocket
    | input => exact serveInput S true
    | idle =>
        refine bind get fun session => ?_
        split
        · exact serveInput S false
        · exact pure _

/-- What is served is the socket or the operator. -/
theorem serve (found : Except WaitFailure Readiness) :
    Concerns [.aside, .screen, .link, .socket, .request, .stop, .line, .stream]
      (Reactor.serve S found) := by
  by_cases hsocket : found = .ok .socket
  · subst hsocket
    exact (serveSocket S).mono (by decide)
  · exact (serve_of_ne S hsocket).mono (by decide)

/-- A round looks at nothing and lets nothing go. -/
theorem iterate :
    Concerns [.aside, .link, .step, .screen, .queue, .wait, .socket, .request, .stop, .line,
      .stream] (Reactor.iterate S) := by
  refine bind ((stepEngineOnce S).mono (by decide)) fun deadline =>
    bind ((drain S _).mono (by decide)) fun emptied => ?_
  split
  · exact bind get fun session => bind ((wait S _).mono (by decide)) fun answer =>
      bind ((serve S answer).mono (by decide)) fun _ => pure _
  · exact pure _

theorem shutdown (reason : Termination) :
    Concerns [.aside, .link, .closing] (Reactor.shutdown S reason) :=
  bind (closeEngine S) fun _ => bind (emit (by simp [Event.topic])) fun _ =>
    bind (emit (by simp [Event.topic])) fun _ => bind (emit (by simp [Event.topic])) fun _ =>
      bind (modifyGet _) fun _ => bind flush fun _ =>
        bind ((logFailure S _ _).mono (by decide)) fun _ => emit (by simp [Event.topic])

/-- The loop looks whether to stop, and does nothing else beside its rounds. -/
theorem loop (rounds : Nat) :
    Concerns [.aside, .link, .step, .screen, .queue, .wait, .socket, .request, .stop, .line,
      .stream, .look] (Reactor.loop S rounds) := by
  induction rounds with
  | zero => exact pure none
  | succ rounds ih =>
      refine bind ((check S).mono (by decide)) fun reason? => ?_
      cases reason? with
      | some reason => exact pure _
      | none =>
          refine bind ((iterate S).mono (by decide)) fun finished => ?_
          split
          · exact ih
          · exact pure none

/-- A run of the console starts nothing. -/
theorem run (rounds : Nat) :
    Concerns [.aside, .link, .step, .screen, .queue, .wait, .socket, .request, .stop, .line,
      .stream, .look, .closing] (Reactor.run S rounds) := by
  refine bind ((writeConsole S _).mono (by decide)) fun _ =>
    bind ((loop S rounds).mono (by decide)) fun reason? => ?_
  cases reason? with
  | none => exact pure none
  | some reason => exact bind ((shutdown S reason).mono (by decide)) fun _ => pure _

end Concerns

namespace Reactor

variable (S : Setting η ω)

/-- A round is a step of the engine and a drain of its queue, and then, when the queue was
emptied, a wait and what it has found. -/
theorem iterate_events (session : Session η ω) :
    (iterate S session).events =
      let stepped := stepEngine S session
      let drained := drain S S.patience stepped.session
      let waited := Session.wait S (timeout drained.session.input.hasLine stepped.value)
        drained.session
      stepped.events ++ (drained.events ++ if drained.value then
        waited.events ++ (serve S waited.value waited.session).events else []) := by
  unfold iterate
  cases hvalue : (drain S S.patience (stepEngine S session).session).value <;> simp [hvalue]

/-- A round is finished when the queue was emptied. -/
theorem iterate_value (session : Session η ω) :
    (iterate S session).value = (drain S S.patience (stepEngine S session).session).value := by
  unfold iterate
  cases hvalue : (drain S S.patience (stepEngine S session).session).value <;> simp [hvalue]

/-- What a round does that is neither for the engine nor a wait, it does for what it serves. -/
theorem iterate_serve {session : Session η ω} {event : Event} {before after : Trace}
    (htopic : event.topic ∉ [.aside, .link, .step, .screen, .queue, .wait])
    (hsplit : (iterate S session).events = before ++ event :: after) :
    ∃ found served front, (serve S found served).events = front ++ event :: after := by
  rw [iterate_events] at hsplit
  rcases Trace.split_append hsplit with ⟨rest, hstep, -⟩ | ⟨front, -, hsplit⟩
  · have hmem := (Concerns.stepEngineOnce S).mem_of_split hstep
    simp_all
  · rcases Trace.split_append hsplit with ⟨rest, hdrain, -⟩ | ⟨front, -, hsplit⟩
    · have hmem := (Concerns.drain S _).mem_of_split hdrain
      simp_all
    · split at hsplit
      · rcases Trace.split_append hsplit with ⟨rest, hwait, -⟩ | ⟨front, -, hsplit⟩
        · have hmem := (Concerns.wait S _).mem_of_split hwait
          simp_all
        · exact ⟨_, _, front, hsplit⟩
      · simp at hsplit

end Reactor

/-! ## The place of an event -/

/-- A trace that is nothing but interrupts up to the loop's next look, or up to its end. -/
def Trace.MeetsLook (trace : Trace) : Prop :=
  ∃ interrupts tail : Trace, trace = interrupts ++ tail ∧
    (∀ event ∈ interrupts, event = .raised .interrupt .interrupted) ∧
    (tail = [] ∨ ∃ found more, tail = .checked found :: more)

namespace Reactor

variable (S : Setting η ω)

/-- Where an event of a run is, with what follows it there. -/
inductive Place (event : Event) (rest : Trace) : Prop where
  | start (session : Session η ω) (front : Trace)
      (hstart : (Session.writeConsole S prompt session).events = front ++ event :: rest)
  | round (session : Session η ω) (front : Trace)
      (hround : (iterate S session).events = front ++ event :: rest)
  | look (hevent : event = .raised .interrupt .interrupted) (hrest : rest = [])
  | shutdown (session : Session η ω) (reason : Termination) (front : Trace)
      (hshutdown : (Reactor.shutdown S reason session).events = front ++ event :: rest)

/-- What is neither for the engine, a wait nor the shutdown has its place in what is served. -/
theorem Place.served {event : Event} {rest : Trace} (hplace : Place S event rest)
    (htopic : event.topic ∉ [.aside, .link, .step, .screen, .queue, .wait, .closing]) :
    ∃ found served front, (serve S found served).events = front ++ event :: rest := by
  cases hplace with
  | start session front hstart =>
      have hmem := (Concerns.writeConsole S prompt).mem_of_split hstart
      simp_all
  | round session front hround =>
      exact iterate_serve S (by simp_all) hround
  | look hevent => simp [hevent, Event.topic] at htopic
  | shutdown session reason front hshutdown =>
      have hmem := (Concerns.shutdown S reason).mem_of_split hshutdown
      simp_all

/-- The events of a look, and what they are followed by. -/
theorem loop_succ_events (rounds : Nat) (session : Session η ω) :
    (loop S (rounds + 1) session).events =
      (Session.attend S session).events ++
        .checked (Session.attend S session).session.token ::
          match (Session.attend S session).session.token with
          | some _ => []
          | none =>
              let ran := iterate S (Session.check S session).session
              ran.events ++ if ran.value then (loop S rounds ran.session).events else [] := by
  rw [loop, Activity.bind_events, Session.check_events, Session.check_value, List.append_assoc,
    List.singleton_append]
  cases (Session.attend S session).session.token with
  | some reason => rfl
  | none =>
      dsimp only
      rw [Activity.bind_events]
      cases (iterate S (Session.check S session).session).value <;> rfl

theorem loop_succ_value (rounds : Nat) (session : Session η ω) :
    (loop S (rounds + 1) session).value =
      match (Session.attend S session).session.token with
      | some reason => some reason
      | none =>
          let ran := iterate S (Session.check S session).session
          if ran.value then (loop S rounds ran.session).value else none := by
  rw [loop, Activity.bind_value, Session.check_value]
  cases (Session.attend S session).session.token with
  | some reason => rfl
  | none =>
      dsimp only
      rw [Activity.bind_value]
      cases (iterate S (Session.check S session).session).value <;> rfl

/-- The events of a loop that goes on: a look, a round, and the rest when the round is finished. -/
theorem loop_events_of_running (rounds : Nat) {session : Session η ω}
    (hrunning : (Session.check S session).value = none) :
    (loop S (rounds + 1) session).events =
      let ran := iterate S (Session.check S session).session
      (Session.check S session).events ++
        (ran.events ++ if ran.value then (loop S rounds ran.session).events else []) := by
  rw [loop, Activity.bind_events, hrunning]
  dsimp only
  rw [Activity.bind_events]
  cases (iterate S (Session.check S session).session).value <;> rfl

/-- The events of a loop that finds a reason to stop are those of the look. -/
theorem loop_events_of_stopping (rounds : Nat) {session : Session η ω} {reason : Termination}
    (hstopping : (Session.check S session).value = some reason) :
    (loop S (rounds + 1) session).events = (Session.check S session).events := by
  rw [loop, Activity.bind_events, hstopping]
  exact List.append_nil _

/-- A loop begins with a look, unless it has no rounds. -/
theorem loop_meetsLook (rounds : Nat) (session : Session η ω) {back : Trace}
    (hback : (loop S rounds session).value = none → back = []) :
    ((loop S rounds session).events ++ back).MeetsLook := by
  cases rounds with
  | zero =>
      rw [hback rfl]
      exact ⟨[], [], rfl, by simp, Or.inl rfl⟩
  | succ rounds =>
      rw [loop_succ_events, List.append_assoc, List.cons_append]
      refine ⟨_, _, rfl, ?_, Or.inr ⟨_, _, rfl⟩⟩
      rcases Session.attend_events S session with hnone | hone
      · simp [hnone]
      · simp [hone]

/-- Where an event is in a loop that has a round to go. -/
inductive InLoop (rounds : Nat) (session : Session η ω) (event : Event) (after : Trace) : Prop where
  /-- It is an interrupt in front of the first look. -/
  | interrupt (more : Trace) (hevent : event = .raised .interrupt .interrupted)
      (hafter : after = .checked (Session.attend S session).session.token :: more)
  /-- It is the first look. -/
  | look (hevent : event = .checked (Session.attend S session).session.token)
      (hfound : (Session.attend S session).session.token ≠ none → after = [])
  /-- It is in the first round. -/
  | round (front rest : Trace) (hrunning : (Session.attend S session).session.token = none)
      (hround : (iterate S (Session.check S session).session).events = front ++ event :: rest)
      (hafter : after = rest ++ if (iterate S (Session.check S session).session).value then
        (loop S rounds (iterate S (Session.check S session).session).session).events else [])
  /-- It is in the rounds behind the first one. -/
  | later (front : Trace) (hrunning : (Session.attend S session).session.token = none)
      (hfinished : (iterate S (Session.check S session).session).value = true)
      (hlater : (loop S rounds (iterate S (Session.check S session).session).session).events =
        front ++ event :: after)

theorem loop_succ_cases {rounds : Nat} {session : Session η ω} {before after : Trace}
    {event : Event}
    (hsplit : (loop S (rounds + 1) session).events = before ++ event :: after) :
    InLoop S rounds session event after := by
  rw [loop_succ_events] at hsplit
  rcases Trace.split_append hsplit with ⟨rest, hattend, hafter⟩ | ⟨front, -, hsplit⟩
  · rcases Session.attend_events S session with hnone | hone
    · simp [hnone] at hattend
    · obtain ⟨rfl, rfl⟩ : event = .raised .interrupt .interrupted ∧ rest = [] := by
        rw [hone] at hattend
        cases before <;> simp_all
      exact .interrupt _ rfl hafter
  · cases front with
    | nil =>
        obtain ⟨hevent, hafter⟩ := List.cons.inj hsplit
        refine .look hevent.symm ?_
        intro hfound
        obtain ⟨reason, htoken⟩ := Option.ne_none_iff_exists'.mp hfound
        simpa [htoken] using hafter.symm
    | cons first front =>
        obtain ⟨-, hsplit⟩ := List.cons.inj hsplit
        cases htoken : (Session.attend S session).session.token with
        | some reason => simp [htoken] at hsplit
        | none =>
            rw [htoken] at hsplit
            rcases Trace.split_append hsplit with ⟨rest, hround, hafter⟩ | ⟨more, -, hsplit⟩
            · exact .round front rest htoken hround hafter
            · split at hsplit
              · rename_i hfinished
                exact .later more htoken hfinished hsplit
              · simp at hsplit

/-- An event of the loop is in a round, or is an interrupt in front of a look. -/
theorem loop_split (rounds : Nat) (session : Session η ω) {back before after : Trace}
    {event : Event} (hback : (loop S rounds session).value = none → back = [])
    (hsplit : (loop S rounds session).events = before ++ event :: after)
    (htopic : event.topic ≠ .look) :
    ∃ rest next, after ++ back = rest ++ next ∧ next.MeetsLook ∧ Place S event rest := by
  induction rounds generalizing session before with
  | zero => simp [loop] at hsplit
  | succ rounds ih =>
      rw [loop_succ_value] at hback
      cases loop_succ_cases S hsplit with
      | interrupt more hevent hafter =>
          refine ⟨[], after ++ back, rfl, ?_, .look hevent rfl⟩
          rw [hafter, List.cons_append]
          exact ⟨[], _, rfl, by simp, Or.inr ⟨_, _, rfl⟩⟩
      | look hevent => exact absurd (congrArg Event.topic hevent) htopic
      | round front rest hrunning hround hafter =>
          refine ⟨rest, _, by rw [hafter, List.append_assoc], ?_, .round _ front hround⟩
          rw [hrunning] at hback
          split
          · rename_i hfinished
            exact loop_meetsLook S rounds _ (by simpa [hfinished] using hback)
          · rename_i hunfinished
            rw [hback (by simp [hunfinished])]
            exact ⟨[], [], rfl, by simp, Or.inl rfl⟩
      | later front hrunning hfinished hlater =>
          exact ih _ (by simpa [hrunning, hfinished] using hback) hlater

/-- A look that finds a reason is the last event of the loop, and the reason is its value. -/
theorem loop_look (rounds : Nat) (session : Session η ω) {before after : Trace}
    {reason : Termination}
    (hsplit : (loop S rounds session).events = before ++ .checked (some reason) :: after) :
    after = [] ∧ (loop S rounds session).value = some reason := by
  induction rounds generalizing session before with
  | zero => simp [loop] at hsplit
  | succ rounds ih =>
      rw [loop_succ_value]
      cases loop_succ_cases S hsplit with
      | interrupt more hevent => simp at hevent
      | look hevent hfound =>
          have htoken := Event.checked.inj hevent
          rw [← htoken] at hfound ⊢
          exact ⟨hfound (by simp), rfl⟩
      | round front rest hrunning hround =>
          have hmem : .checked (some reason) ∈
              (iterate S (Session.check S session).session).events := by simp [hround]
          exact absurd rfl ((Concerns.iterate S).topic_ne hmem .look (by decide))
      | later front hrunning hfinished hlater => simpa [hrunning, hfinished] using ih _ hlater

/-- What a run does once its loop has left: with a reason to stop the console shuts down. -/
def afterLoop : Option Termination → Activity (Session η ω) (Option Termination)
  | none => pure none
  | some reason => do
      shutdown S reason
      return some reason

theorem concerns_afterLoop (reason? : Option Termination) :
    Concerns [.aside, .link, .closing] (afterLoop S reason?) := by
  cases reason? with
  | none => exact Concerns.pure none
  | some reason => exact (Concerns.shutdown S reason).bind fun _ => Concerns.pure (some reason)

theorem afterLoop_value (reason? : Option Termination) (session : Session η ω) :
    (afterLoop S reason? session).value = reason? := by
  cases reason? with
  | none => rfl
  | some reason => rfl

@[simp]
theorem afterLoop_none_events (session : Session η ω) : (afterLoop S none session).events = [] :=
  rfl

@[simp]
theorem afterLoop_some_events (reason : Termination) (session : Session η ω) :
    (afterLoop S (some reason) session).events = (shutdown S reason session).events := by
  simp [afterLoop]

/-- A run is its start, the loop, and the shutdown when the loop has found a reason to stop. -/
theorem run_eq (rounds : Nat) :
    run S rounds = (do
      Session.writeConsole S prompt
      let reason? ← loop S rounds
      afterLoop S reason?) :=
  rfl

theorem run_events (rounds : Nat) (session : Session η ω) :
    (run S rounds session).events =
      let prompted := Session.writeConsole S prompt session
      let looped := loop S rounds prompted.session
      prompted.events ++ (looped.events ++ (afterLoop S looped.value looped.session).events) := by
  rw [run_eq, Activity.bind_events, Activity.bind_events]

theorem run_value (rounds : Nat) (session : Session η ω) :
    (run S rounds session).value =
      (loop S rounds (Session.writeConsole S prompt session).session).value := by
  rw [run_eq, Activity.bind_value, Activity.bind_value, afterLoop_value]

/-- Every event of a run but the looks has its place, and what is left there is followed by the
loop's next look, unless the run ends. -/
theorem run_split (rounds : Nat) (session : Session η ω) {before after : Trace} {event : Event}
    (hsplit : (run S rounds session).events = before ++ event :: after)
    (htopic : event.topic ≠ .look) :
    ∃ rest next, after = rest ++ next ∧ next.MeetsLook ∧ Place S event rest := by
  rw [run_events] at hsplit
  dsimp only at hsplit
  rcases Trace.split_append hsplit with ⟨rest, hstart, hafter⟩ | ⟨front, -, hsplit⟩
  · refine ⟨rest, _, hafter, ?_, .start session before hstart⟩
    exact loop_meetsLook S rounds _ fun hvalue => by rw [hvalue, afterLoop_none_events]
  · rcases Trace.split_append hsplit with ⟨rest, hrounds, rfl⟩ | ⟨more, -, hsplit⟩
    · exact loop_split S rounds _ (fun hvalue => by rw [hvalue, afterLoop_none_events]) hrounds
        htopic
    · cases hvalue : (loop S rounds (Session.writeConsole S prompt session).session).value with
      | none => simp [hvalue] at hsplit
      | some reason =>
          rw [hvalue, afterLoop_some_events] at hsplit
          exact ⟨after, [], by simp, ⟨[], [], rfl, by simp, Or.inl rfl⟩,
            .shutdown _ _ more hsplit⟩

/-- A look that finds a reason is the last one of the run, and only the shutdown follows it. -/
theorem run_look (rounds : Nat) (session : Session η ω) {before after : Trace}
    {reason : Termination}
    (hsplit : (run S rounds session).events = before ++ .checked (some reason) :: after) :
    (run S rounds session).value = some reason ∧
      ∀ event ∈ after, event.topic ∈ [.aside, .link, .closing] := by
  rw [run_events] at hsplit
  rw [run_value]
  dsimp only at hsplit
  rcases Trace.split_append hsplit with ⟨rest, hstart, -⟩ | ⟨front, -, hsplit⟩
  · have hmem := (Concerns.writeConsole S prompt).mem_of_split hstart
    simp [Event.topic] at hmem
  · rcases Trace.split_append hsplit with ⟨rest, hlook, hafter⟩ | ⟨more, -, hsplit⟩
    · obtain ⟨rfl, hvalue⟩ := loop_look S rounds _ hlook
      refine ⟨hvalue, fun event hmem => ?_⟩
      rw [hafter, List.nil_append] at hmem
      exact concerns_afterLoop S _ _ event hmem
    · have hmem := (concerns_afterLoop S _).mem_of_split hsplit
      simp [Event.topic] at hmem

end Reactor

end DeviceConsole
