import DeviceConsole.Proofs.Reactor.Datagrams
import DeviceConsole.Proofs.Reactor.OperatorLines
import DeviceConsole.Proofs.Session.Screens

/-!
# How a run stops

The token keeps the reason that was raised last, and nothing takes it back.  A console that is
asked to stop goes on with what it is in the middle of, the prompt at its start or one round,
and the loop's next look is its last.  When the operator asks, nothing is left of the round but
an end of the line on the screen.

Main results:

- Theorem {lit}`Held.step`: every step keeps the reason that was raised last.
- Theorem {lit}`Reactor.Place.withinRound`: what is left of a round waits at most once and serves
  at most one datagram or line.
- Theorem {lit}`Parts.serve`: what is left of a round in which the operator has asked to stop.
- Theorem {lit}`run_stopsInTime`: a run stops at the end of the round in which it is asked to.
-/

namespace DeviceConsole

variable {η ω α β : Type}

/-! ## The reason that was raised last -/

/-- The reason that was raised last, or the first one when none was raised. -/
def Trace.lastReason (first : Option Termination) (trace : Trace) : Option Termination :=
  trace.foldl (fun reason event =>
    match event with
    | .raised _ raised => some raised
    | _ => reason) first

namespace Trace

variable {first : Option Termination}

theorem lastReason_append (left right : Trace) :
    (left ++ right).lastReason first = right.lastReason (left.lastReason first) :=
  List.foldl_append

/-- A reason that was raised stays, or a later one takes its place. -/
theorem isSome_lastReason {reason : Termination} (trace : Trace) :
    (trace.lastReason (some reason)).isSome := by
  induction trace generalizing reason with
  | nil => rfl
  | cons event trace ih =>
      rw [lastReason, List.foldl_cons]
      split
      · exact ih
      · exact ih

theorem isSome_lastReason_of_mem {source : RaiseSource} {reason : Termination} {trace : Trace}
    (hmem : .raised source reason ∈ trace) : (trace.lastReason first).isSome := by
  obtain ⟨before, after, rfl⟩ := List.append_of_mem hmem
  rw [lastReason_append]
  exact isSome_lastReason after

/-- Without a raise the reason stays what it was. -/
theorem lastReason_eq {trace : Trace} (h : ∀ source reason, .raised source reason ∉ trace) :
    trace.lastReason first = first := by
  induction trace with
  | nil => rfl
  | cons event trace ih =>
      have hrest : ∀ source reason, .raised source reason ∉ trace :=
        fun source reason hmem => h source reason (List.mem_cons_of_mem _ hmem)
      cases event with
      | raised source reason => exact absurd List.mem_cons_self (h source reason)
      | _ => exact ih hrest

end Trace

/-- The token holds the reason that was raised last, and so did it at every look. -/
structure Held (first : Option Termination) (past : Trace) (session : Session η ω) : Prop where
  token_eq : session.token = past.lastReason first
  looks : ∀ {before after : Trace} {found : Option Termination},
    past = before ++ .checked found :: after → found = before.lastReason first

namespace Held

variable {first : Option Termination} {past events : Trace} {session next : Session η ω}

theorem start : Held session.token [] session where
  token_eq := rfl
  looks := by simp

/-- More events add to the reason what they raise. -/
theorem append (h : Held first past session)
    (htoken : next.token = events.lastReason session.token)
    (hlooks : ∀ {front after : Trace} {found : Option Termination},
      events = front ++ .checked found :: after → found = front.lastReason session.token) :
    Held first (past ++ events) next where
  token_eq := by rw [Trace.lastReason_append, htoken, h.token_eq]
  looks := by
    intro before after found hsplit
    rcases Trace.split_append hsplit with ⟨rest, hpast, -⟩ | ⟨front, rfl, hevents⟩
    · exact h.looks hpast
    · rw [Trace.lastReason_append, ← h.token_eq]
      exact hlooks hevents

/-- Only a raise changes the token. -/
theorem move (h : Held first past session) (hmove : Move session events next) :
    Held first (past ++ events) next := by
  refine h.append ?_ ?_
  · cases hmove with
    | tell hplain =>
        refine (Trace.lastReason_eq ?_).symm
        intro source reason hmem
        obtain rfl := List.mem_singleton.mp hmem
        simp [Event.isPlain] at hplain
    | resolve peer => split <;> rfl
    | _ => rfl
  · intro front after found hevents
    have hmark := hmove.not_isMark (.checked found) (by simp [hevents])
    simp [Event.isMark] at hmark

/-- Every step keeps the reason that was raised last. -/
theorem step (h : Held first past session) (hstep : Step session events next) :
    Held first (past ++ events) next := by
  cases hstep with
  | move hmove => exact h.move hmove
  | takeLine hwait =>
      refine h.append rfl ?_
      intro front after found hevents
      rcases List.cons_eq_append_iff.mp hevents with ⟨rfl, hlook⟩ | ⟨rest, -, hrest⟩
      · simp at hlook
      · simp at hrest
  | look =>
      refine h.append rfl ?_
      intro front after found hevents
      rcases List.cons_eq_append_iff.mp hevents with ⟨rfl, hlook⟩ | ⟨rest, -, hrest⟩
      · exact Event.checked.inj (List.cons.inj hlook).1
      · simp at hrest

theorem of_travels {activity : Activity (Session η ω) α} (h : Travels Step activity)
    (session : Session η ω) :
    Held session.token (activity session).events (activity session).session :=
  @Chain.keeps _ _ _ _ _ _ (Held session.token) (fun h hstep => h.step hstep) (h session) [] start

end Held

/-! ## What is left of a round -/

/-- A part of a run with at most one wait, and at most one answer of the socket or line of the
operator's. -/
structure Trace.WithinRound (trace : Trace) : Prop where
  waits : (trace.about .wait).length ≤ 1
  served : trace.receipts.length + trace.lines.length ≤ 1

namespace Trace.WithinRound

/-- What is left of a round is within it. -/
theorem of_append {front back : Trace} (h : WithinRound (front ++ back)) : WithinRound back where
  waits := by
    have hwaits := h.waits
    rw [about_append, List.length_append] at hwaits
    omega
  served := by
    have hserved := h.served
    rw [receipts_append, lines_append, List.length_append, List.length_append] at hserved
    omega

end Trace.WithinRound

namespace Concerns

variable {topics : List Topic} {activity : Activity (Session η ω) α}

theorem receipts_eq_nil (h : Concerns topics activity) (session : Session η ω)
    (hsocket : .socket ∉ topics) : (activity session).events.receipts = [] := by
  rw [← Trace.receipts_about, h.about_eq_nil session hsocket]
  rfl

theorem lines_eq_nil (h : Concerns topics activity) (session : Session η ω)
    (hline : .line ∉ topics) : (activity session).events.lines = [] := by
  rw [← Trace.lines_about, h.about_eq_nil session hline]
  rfl

/-- An activity that neither waits nor serves anything is within a round. -/
theorem withinRound (h : Concerns topics activity) (session : Session η ω) (hwait : .wait ∉ topics)
    (hsocket : .socket ∉ topics) (hline : .line ∉ topics) :
    (activity session).events.WithinRound where
  waits := by simp [h.about_eq_nil session hwait]
  served := by simp [h.receipts_eq_nil session hsocket, h.lines_eq_nil session hline]

end Concerns

namespace Reactor

variable (S : Setting η ω) (session : Session η ω)

theorem receipts_serveSocket :
    (serveSocket S session).events.receipts = [(Session.receive S session).value] := by
  rw [serveSocket_eq, Activity.bind_events, Trace.receipts_append, receipts_deal, receive_events,
    Trace.receipts_append, (Concerns.attend S).receipts_eq_nil session (by decide)]
  rfl

/-- What is served is one answer of the socket or at most one line. -/
theorem length_served_serve (found : Except WaitFailure Readiness) :
    (serve S found session).events.receipts.length +
      (serve S found session).events.lines.length ≤ 1 := by
  by_cases hsocket : found = .ok .socket
  · subst hsocket
    rw [serve, receipts_serveSocket, (Travels.serveSocket S).lines_eq_nil]
    rfl
  · rw [(Concerns.serve_of_ne S hsocket).receipts_eq_nil session (by decide)]
    simpa using length_lines_serve S session found

theorem about_wait (timeout : Duration) :
    (Session.wait S timeout session).events.about .wait =
      [.waited timeout (Session.wait S timeout session).value] := by
  have hevents : (Session.wait S timeout session).events = (Session.attend S session).events ++
      [.waited timeout (Session.wait S timeout session).value] := rfl
  rw [hevents, Trace.about_append, (Concerns.attend S).about_eq_nil _ (by decide)]
  rfl

/-- A round that is finished has waited once. -/
theorem length_waits_iterate :
    ((iterate S session).events.about .wait).length =
      if (iterate S session).value then 1 else 0 := by
  rw [iterate_events, iterate_value]
  dsimp only
  rw [Trace.about_append, Trace.about_append,
    (Concerns.stepEngineOnce S).about_eq_nil _ (by decide),
    (Concerns.drain S _).about_eq_nil _ (by decide)]
  split
  · rw [Trace.about_append, about_wait, (Concerns.serve S _).about_eq_nil _ (by decide)]
    rfl
  · rfl

/-- A round waits once at most, and serves once at most. -/
theorem withinRound_iterate : (iterate S session).events.WithinRound := by
  constructor
  · rw [length_waits_iterate]
    split <;> decide
  · have hstep := Concerns.stepEngineOnce S
    have hdrain := Concerns.drain S S.patience
    rw [iterate_events]
    dsimp only
    rw [Trace.receipts_append, Trace.receipts_append, hstep.receipts_eq_nil _ (by decide),
      hdrain.receipts_eq_nil _ (by decide), Trace.lines_append, Trace.lines_append,
      hstep.lines_eq_nil _ (by decide), hdrain.lines_eq_nil _ (by decide)]
    split
    · have hwait := fun timeout => Concerns.wait S timeout
      rw [Trace.receipts_append, Trace.lines_append, (hwait _).receipts_eq_nil _ (by decide),
        (hwait _).lines_eq_nil _ (by decide)]
      exact length_served_serve S _ _
    · exact Nat.zero_le 1

/-- Whatever its place, what follows an event there is within a round. -/
theorem Place.withinRound {event : Event} {rest : Trace} (hplace : Place S event rest) :
    rest.WithinRound := by
  have hbehind : ∀ {front : Trace}, (front ++ event :: rest).WithinRound → rest.WithinRound :=
    fun {front} h => (show ((front ++ [event]) ++ rest).WithinRound by simpa using h).of_append
  cases hplace with
  | start session front hstart =>
      apply hbehind
      rw [← hstart]
      exact (Concerns.writeConsole S prompt).withinRound session (by decide) (by decide) (by decide)
  | round session front hround =>
      apply hbehind
      rw [← hround]
      exact withinRound_iterate S session
  | look hevent hrest =>
      rw [hrest]
      exact ⟨Nat.zero_le 1, Nat.zero_le 1⟩
  | shutdown session reason front hshutdown =>
      apply hbehind
      rw [← hshutdown]
      exact (Concerns.shutdown S reason).withinRound session (by decide) (by decide) (by decide)

end Reactor

/-! ## When the operator asks -/

/-- Whether an event may come between the operator's wish to stop and the shutdown: a line for
the log, the end of a line on the screen, or an interrupt. -/
def Event.IsParting : Event → Prop
  | .logged _ => True
  | .wrote bytes => bytes <+: Utf8.encode "\n"
  | .raised source _ => source = .interrupt
  | _ => False

/-- Once the console is asked to stop, the activity leaves nothing but parting events. -/
def Parting (activity : Activity (Session η ω) α) : Prop :=
  ∀ session, session.token.isSome →
    (∀ event ∈ (activity session).events, event.IsParting) ∧
      (activity session).session.token.isSome

namespace Parting

theorem pure (value : α) : Parting (pure value : Activity (Session η ω) α) := by
  intro session htoken
  exact ⟨by simp, htoken⟩

theorem bind {first : Activity (Session η ω) α} {next : α → Activity (Session η ω) β}
    (hfirst : Parting first) (hnext : ∀ value, Parting (next value)) :
    Parting (first >>= next) := by
  intro session htoken
  obtain ⟨hfront, hasked⟩ := hfirst session htoken
  obtain ⟨hback, hend⟩ := hnext (first session).value (first session).session hasked
  refine ⟨fun event hmem => ?_, hend⟩
  rcases List.mem_append.mp hmem with hmem | hmem
  · exact hfront event hmem
  · exact hback event hmem

variable (S : Setting η ω)

theorem log (diagnostic : Diagnostic) : Parting (Session.log S diagnostic) := by
  intro session htoken
  rw [Session.log_session]
  refine ⟨fun event hmem => ?_, htoken⟩
  rw [Session.log] at hmem
  split at hmem
  · obtain rfl : event = .logged diagnostic := by simpa using hmem
    trivial
  · simp at hmem

theorem logFailure (diagnostic : IoFailure → Diagnostic) (result : Except IoFailure Unit) :
    Parting (Session.logFailure S diagnostic result) := by
  cases result with
  | ok _ => exact pure _
  | error failure => exact log S _

theorem attend : Parting (Session.attend S) := by
  intro session htoken
  cases harrived : (S.host.interrupt session.host).1 with
  | false => simpa [Session.attend, harrived] using htoken
  | true => simp [Session.attend, Session.raise, harrived, Event.IsParting]

theorem isRaised : Parting (Session.isRaised S) :=
  bind (attend S) fun _ session htoken => ⟨by simp [Activity.get_bind_run], htoken⟩

/-- An end of the line is all that is written. -/
theorem writeConsole : Parting (Session.writeConsole S "\n") := by
  refine bind (bind (bind (attend S) fun _ => ?_) fun result => ?_) fun _ => logFailure S _ _
  · intro session htoken
    refine ⟨fun event hmem => ?_, htoken⟩
    obtain rfl := List.mem_singleton.mp hmem
    exact session.console.accepted_isPrefix _
  · cases result with
    | ok _ => exact fun session htoken => ⟨by simp [Session.flush], htoken⟩
    | error failure => exact pure _

/-- A console that is asked to stop shows no prompt. -/
theorem promptAgain : Parting (Reactor.promptAgain S) := by
  intro session htoken
  obtain ⟨hfront, hasked⟩ := isRaised S session htoken
  have hraised : (Session.isRaised S session).value = true := (attend S session htoken).2
  obtain ⟨hback, hend⟩ := writeConsole S (Session.isRaised S session).session hasked
  rw [Reactor.promptAgain, Activity.bind_events, Activity.bind_session, hraised, if_pos rfl]
  refine ⟨fun event hmem => ?_, hend⟩
  rcases List.mem_append.mp hmem with hmem | hmem
  · exact hfront event hmem
  · exact hback event hmem

end Parting

/-- Whatever the activity does after the operator has asked to stop are parting events. -/
def Parts (activity : Activity (Session η ω) α) : Prop :=
  ∀ (session : Session η ω) (before after : Trace) (event : Event), event.topic = .stop →
    (activity session).events = before ++ event :: after →
      (∀ other ∈ after, other.IsParting) ∧ (activity session).session.token.isSome

namespace Parts

/-- An activity in which the operator does not ask to stop. -/
theorem of_concerns {activity : Activity (Session η ω) α} {topics : List Topic}
    (h : Concerns topics activity) (hstop : .stop ∉ topics) : Parts activity := by
  intro session before after event htopic hsplit
  exact absurd (htopic ▸ h.mem_of_split hsplit) hstop

theorem bind {first : Activity (Session η ω) α} {next : α → Activity (Session η ω) β}
    (hfirst : Parts first) (hnext : ∀ value, Parts (next value))
    (hparting : ∀ value, Parting (next value)) : Parts (first >>= next) := by
  intro session before after event htopic hsplit
  rw [Activity.bind_events] at hsplit
  rcases Trace.split_append hsplit with ⟨rest, hfront, rfl⟩ | ⟨front, -, hback⟩
  · obtain ⟨hrest, htoken⟩ := hfirst session before rest event htopic hfront
    obtain ⟨hothers, hend⟩ := hparting _ _ htoken
    refine ⟨fun other hmem => ?_, hend⟩
    rcases List.mem_append.mp hmem with hmem | hmem
    · exact hrest other hmem
    · exact hothers other hmem
  · exact hnext _ _ front after event htopic hback

/-- What comes in front of the operator's wish does not matter. -/
theorem behind {first : Activity (Session η ω) α} {next : α → Activity (Session η ω) β}
    {topics : List Topic} (hfirst : Concerns topics first) (hstop : .stop ∉ topics)
    (hnext : ∀ value, Parts (next value)) : Parts (first >>= next) := by
  intro session before after event htopic hsplit
  obtain ⟨front, hback⟩ := hfirst.split_bind (htopic ▸ hstop) hsplit
  exact hnext _ _ front after event htopic hback

theorem pure (value : α) : Parts (pure value : Activity (Session η ω) α) := by
  intro session before after event _ hsplit
  simp at hsplit

theorem get_bind {next : Session η ω → Activity (Session η ω) β}
    (hnext : ∀ seen, Parts (next seen)) : Parts (Activity.get >>= next) := by
  intro session
  exact hnext session session

theorem raise (source : RaiseSource) (reason : Termination) :
    Parts (Session.raise source reason : Activity (Session η ω) Unit) := by
  intro session before after event _ hsplit
  have hlast : [.raised source reason] = before ++ event :: after := hsplit
  obtain rfl : after = [] := by
    rcases List.cons_eq_append_iff.mp hlast with ⟨-, hcons⟩ | ⟨rest, -, hrest⟩
    · exact (List.cons.inj hcons).2
    · simp at hrest
  exact ⟨by simp, rfl⟩

variable (S : Setting η ω)

theorem dispatch (line : List Char) : Parts (dispatch S line) := by
  by_cases hquit : ∃ typed, Command.ofLine? line = some typed ∧ typed.command = .ok .quit
  · obtain ⟨typed, hline, hquit⟩ := hquit
    rw [Concerns.dispatch_of_quit S hline hquit]
    exact bind (raise _ _) (fun _ => behind (Concerns.log S _) (by decide) fun _ => pure _)
      fun _ => Parting.bind (Parting.log S _) fun _ => Parting.pure _
  · refine of_concerns (Concerns.dispatch_of_ne S fun typed hline hcommand => ?_) (by decide)
    exact hquit ⟨typed, hline, hcommand⟩

theorem runCommand (line : String) : Parts (Reactor.runCommand S line) := by
  unfold Reactor.runCommand
  dsimp only
  split
  · refine bind (dispatch S _) (fun result => ?_) fun result => ?_
    · exact behind (Concerns.logFailure S _ _) (by decide) fun _ =>
        behind (Concerns.writeConsole S _) (by decide) fun _ =>
          of_concerns (Concerns.promptAgain S) (by decide)
    · exact Parting.bind (Parting.logFailure S _ _) fun _ =>
        Parting.bind (Parting.writeConsole S) fun _ => Parting.promptAgain S
  · exact of_concerns (Concerns.promptAgain S) (by decide)

theorem endInput : Parts (Reactor.endInput S) := by
  refine get_bind fun session => ?_
  split
  · exact behind (Concerns.log S _) (by decide) fun _ => raise _ _
  · exact pure _

theorem serveNextLine : Parts (Reactor.serveNextLine S) := by
  refine behind Concerns.takeLine (by decide) fun line => ?_
  cases line with
  | none => exact endInput S
  | some line =>
      cases line with
      | command text => exact runCommand S text
      | overlong => exact of_concerns (Concerns.serveOverlong S) (by decide)

theorem serveInput (readable : Bool) : Parts (Reactor.serveInput S readable) := by
  unfold Reactor.serveInput
  dsimp only
  split
  · exact behind (Concerns.fillInput S) (by decide) fun _ =>
      behind (Concerns.logFailure S _ _) (by decide) fun _ => serveNextLine S
  · exact serveNextLine S

/-- Nothing of a round is left but parting events when the operator has asked to stop. -/
theorem serve (found : Except WaitFailure Readiness) : Parts (Reactor.serve S found) := by
  rcases found with failure | readiness
  · cases failure with
    | interrupted => exact pure _
    | failed cause => exact of_concerns (Concerns.log S _) (by decide)
  · cases readiness with
    | socket => exact of_concerns (Concerns.serveSocket S) (by decide)
    | input => exact serveInput S true
    | idle =>
        refine get_bind fun session => ?_
        split
        · exact serveInput S false
        · exact pure _

end Parts

namespace Trace

/-- The steps that the engine has taken. -/
def steps (trace : Trace) : List (Except StepFailure Duration) :=
  trace.filterMap fun
    | .stepped answer => some answer
    | _ => none

theorem steps_append (left right : Trace) : steps (left ++ right) = steps left ++ steps right := by
  simp [steps]

theorem steps_about (trace : Trace) : (trace.about .step).steps = trace.steps := by
  refine filterMap_about (fun event htopic => ?_) trace
  split
  · exact absurd rfl htopic
  · rfl

end Trace

theorem Concerns.steps_eq_nil {topics : List Topic} {activity : Activity (Session η ω) α}
    (h : Concerns topics activity) (session : Session η ω) (hstep : .step ∉ topics) :
    (activity session).events.steps = [] := by
  rw [← Trace.steps_about, h.about_eq_nil session hstep]
  rfl

namespace Reactor

variable (S : Setting η ω)

theorem length_steps_stepEngine (session : Session η ω) :
    (Session.stepEngine S session).events.steps.length = 1 := by
  let noted := Session.note S (.called .step) session
  let spoken := Session.converse S (S.engine.step noted.session.engine) noted.session
  have hevents : (Session.stepEngine S session).events =
      noted.events ++ (spoken.events ++ [.stepped spoken.value.2]) := by
    simp [Session.stepEngine, noted, spoken]
  have hnoted : noted.events.steps = [] := by
    rw [Session.note_events]
    split <;> rfl
  rw [hevents, Trace.steps_append, Trace.steps_append, hnoted,
    (Concerns.converse S _).steps_eq_nil _ (by decide)]
  rfl

/-- The engine steps once a round. -/
theorem length_steps_iterate (session : Session η ω) :
    (iterate S session).events.steps.length = 1 := by
  have hstep : (stepEngine S session).events.steps =
      (Session.stepEngine S session).events.steps := by
    rw [stepEngine, Activity.bind_events, Trace.steps_append]
    cases (Session.stepEngine S session).value with
    | ok duration => exact List.append_nil _
    | error failure =>
        rw [((Concerns.log S _).bind fun _ => Concerns.pure _).steps_eq_nil _ (by decide)]
        exact List.append_nil _
  rw [iterate_events]
  dsimp only
  rw [Trace.steps_append, Trace.steps_append, hstep,
    (Concerns.drain S _).steps_eq_nil _ (by decide)]
  split
  · rw [Trace.steps_append, (Concerns.wait S _).steps_eq_nil _ (by decide),
      (Concerns.serve S _).steps_eq_nil _ (by decide)]
    simpa using length_steps_stepEngine S session
  · simpa [Trace.steps] using length_steps_stepEngine S session

/-- After a raise nothing follows but the rest of the round and the shutdown. -/
theorem topics_of_meetsLook (rounds : Nat) (session : Session η ω) {before next : Trace}
    (hsplit : (run S rounds session).events = before ++ next)
    (hraised : (before.lastReason session.token).isSome) (hnext : next.MeetsLook) :
    ∀ event ∈ next, event.topic ∈ [.aside, .look, .link, .closing] := by
  obtain ⟨interrupts, tail, rfl, hinterrupts, rfl | ⟨found, more, rfl⟩⟩ := hnext
  · intro event hmem
    rw [hinterrupts event (by simpa using hmem)]
    decide
  · rw [← List.append_assoc] at hsplit
    have hlook := (Held.of_travels (Travels.run S rounds) session).looks hsplit
    have hfound : found.isSome := by
      rw [hlook, Trace.lastReason_append]
      obtain ⟨reason, hreason⟩ := Option.isSome_iff_exists.mp hraised
      rw [hreason]
      exact Trace.isSome_lastReason interrupts
    obtain ⟨reason, rfl⟩ := Option.isSome_iff_exists.mp hfound
    have hmore := (run_look S rounds session hsplit).2
    intro event hmem
    rcases List.mem_append.mp hmem with hmem | hmem
    · rw [hinterrupts event hmem]
      decide
    · rcases List.mem_cons.mp hmem with rfl | hmem
      · simp [Event.topic]
      · have hsubset : ([.aside, .link, .closing] : List Topic) ⊆
            [.aside, .look, .link, .closing] := by decide
        exact hsubset (hmore event hmem)

/-- With a reason from the start the loop looks once and does nothing else. -/
theorem topics_loop (rounds : Nat) (session : Session η ω) (htoken : session.token.isSome) :
    ∀ event ∈ (loop S rounds session).events, event.topic ∈ [.aside, .look] := by
  cases rounds with
  | zero => simp [loop]
  | succ rounds =>
      obtain ⟨reason, hreason⟩ :=
        Option.isSome_iff_exists.mp (Parting.attend S session htoken).2
      rw [loop_succ_events, hreason]
      intro event hmem
      rcases List.mem_append.mp hmem with hmem | hmem
      · have htopic := Concerns.attend S session event hmem
        simp_all
      · obtain rfl := List.mem_singleton.mp hmem
        simp [Event.topic]

/-- What is written is the beginning of the text. -/
theorem output_writeConsole (text : String) (session : Session η ω) :
    (Session.writeConsole S text session).events.output <+: Utf8.encode text := by
  rw [Session.writeConsole, Activity.bind_events, Trace.output_append,
    (Concerns.logFailure S _ _).output_eq_nil _ (by decide), List.append_nil,
    Session.writeFlushed_events, Session.write_events, Trace.output_append,
    (Concerns.attend S).output_eq_nil _ (by decide), List.nil_append, ← Console.write_accepted]
  simpa [Trace.output] using Console.accepted_isPrefix _ _

theorem run_from_start (rounds : Nat) (session : Session η ω) (htoken : session.token.isSome) :
    (run S rounds session).events.output <+: Utf8.encode prompt ∧
      ∀ event ∈ (run S rounds session).events,
        event.topic ∈ [.aside, .screen, .look, .link, .closing] := by
  let prompted := Session.writeConsole S prompt session
  have hasked : prompted.session.token.isSome := by
    obtain ⟨reason, hreason⟩ := Option.isSome_iff_exists.mp htoken
    rw [(Held.of_travels (Travels.writeConsole S prompt).steps session).token_eq, hreason]
    exact Trace.isSome_lastReason _
  let looped := loop S rounds prompted.session
  let back := looped.events ++ (afterLoop S looped.value looped.session).events
  have hback : ∀ event ∈ back, event.topic ∈ [.aside, .look, .link, .closing] := by
    intro event hmem
    rcases List.mem_append.mp hmem with hmem | hmem
    · have hsubset : ([.aside, .look] : List Topic) ⊆ [.aside, .look, .link, .closing] := by decide
      exact hsubset (topics_loop S rounds prompted.session hasked event hmem)
    · exact (concerns_afterLoop S _).mono (by decide) _ event hmem
  have hevents : (run S rounds session).events = prompted.events ++ back :=
    run_events S rounds session
  rw [hevents]
  constructor
  · rw [Trace.output_append, @Trace.output_eq_nil back, List.append_nil]
    · exact output_writeConsole S prompt session
    · intro event hmem htopic
      simpa [htopic] using hback event hmem
  · intro event hmem
    rcases List.mem_append.mp hmem with hmem | hmem
    · exact (Concerns.writeConsole S prompt).mono (by decide) session event hmem
    · have hsubset : ([.aside, .look, .link, .closing] : List Topic) ⊆
          [.aside, .screen, .look, .link, .closing] := by decide
      exact hsubset (hback event hmem)

/-- A loop that was asked to stop, and has finished all its rounds, stops when one more begins. -/
theorem loop_stops (rounds : Nat) (session : Session η ω)
    (hraised : ((loop S rounds session).events.lastReason session.token).isSome)
    (hfinished : (loop S rounds session).events.steps.length =
      ((loop S rounds session).events.about .wait).length) :
    (loop S (rounds + 1) session).value.isSome := by
  induction rounds generalizing session with
  | zero =>
      have htoken : (Session.attend S session).session.token.isSome :=
        (Parting.attend S session hraised).2
      rw [loop_succ_value]
      cases hreason : (Session.attend S session).session.token with
      | none => simp [hreason] at htoken
      | some reason => rfl
  | succ rounds ih =>
      rw [loop_succ_value]
      cases hreason : (Session.attend S session).session.token with
      | some reason => rfl
      | none =>
          let checked := Session.check S session
          let round := iterate S checked.session
          have hevents : (loop S (rounds + 1) session).events = checked.events ++ (round.events ++
              if round.value then (loop S rounds round.session).events else []) := by
            rw [loop_succ_events, Session.check_events, hreason, List.append_assoc]
            rfl
          have htoken : round.session.token =
              (checked.events ++ round.events).lastReason session.token := by
            rw [Trace.lastReason_append,
              ← (Held.of_travels (Travels.check S) session).token_eq,
              (Held.of_travels (Travels.iterate S) checked.session).token_eq]
          have hsteps : round.events.steps.length = 1 := length_steps_iterate S checked.session
          have hwaits : (round.events.about .wait).length = if round.value then 1 else 0 :=
            length_waits_iterate S checked.session
          rw [hevents, Trace.steps_append, Trace.about_append,
            (Concerns.check S).steps_eq_nil session (by decide),
            (Concerns.check S).about_eq_nil session (by decide), Trace.steps_append,
            Trace.about_append] at hfinished
          rw [hevents, ← List.append_assoc, Trace.lastReason_append, ← htoken] at hraised
          dsimp only
          cases hvalue : round.value with
          | false => simp [hvalue, hsteps, hwaits] at hfinished
          | true =>
              rw [hvalue, if_pos rfl] at hraised hfinished hwaits
              refine ih round.session hraised ?_
              simp only [List.nil_append, List.length_append, hsteps, hwaits] at hfinished
              omega

/-- A loop that has ended was asked to stop. -/
theorem isSome_lastReason_of_loop_value (rounds : Nat) (session : Session η ω)
    {reason : Termination} (hvalue : (loop S rounds session).value = some reason) :
    ((loop S rounds session).events.lastReason session.token).isSome := by
  obtain ⟨before, after, hsplit⟩ :=
    List.append_of_mem (checked_of_loop_value S rounds session hvalue)
  have hlook := (Held.of_travels (Travels.loop S rounds) session).looks hsplit
  rw [hsplit, Trace.lastReason_append, ← hlook]
  exact Trace.isSome_lastReason _

/-- A run that was asked to stop, and has finished all its rounds, stops when one more begins. -/
theorem run_stops (rounds : Nat) (session : Session η ω)
    (hraised : ((run S rounds session).events.lastReason session.token).isSome)
    (hfinished : (run S rounds session).events.steps.length =
      ((run S rounds session).events.about .wait).length) :
    (run S (rounds + 1) session).value.isSome := by
  let prompted := Session.writeConsole S prompt session
  have htoken : prompted.session.token = prompted.events.lastReason session.token :=
    (Held.of_travels (Travels.writeConsole S prompt).steps session).token_eq
  have hprompt := Concerns.writeConsole S prompt
  rw [run_events] at hraised hfinished
  rw [run_value]
  dsimp only at hraised hfinished
  rw [Trace.steps_append, Trace.steps_append, Trace.about_append, Trace.about_append,
    hprompt.steps_eq_nil session (by decide), hprompt.about_eq_nil session (by decide)] at hfinished
  apply loop_stops S rounds prompted.session
  · cases hvalue : (loop S rounds prompted.session).value with
    | some reason => exact isSome_lastReason_of_loop_value S rounds prompted.session hvalue
    | none =>
        rw [htoken, ← Trace.lastReason_append]
        simpa [prompted, hvalue] using hraised
  · cases hvalue : (loop S rounds prompted.session).value with
    | none => simpa [prompted, hvalue, Trace.steps] using hfinished
    | some reason =>
        let looped := loop S rounds prompted.session
        have hsteps := (Concerns.shutdown S reason).steps_eq_nil looped.session (by decide)
        have hwaits : (shutdown S reason looped.session).events.about .wait = [] :=
          (Concerns.shutdown S reason).about_eq_nil looped.session (by decide)
        simpa [prompted, looped, hvalue, hsteps, hwaits] using hfinished

end Reactor

/-! ## A run -/

/-- How a run, and the run with one more round, stop when they start with a given reason to stop,
or with none. -/
structure StopsInTime (S : Setting η ω) (first : Option Termination)
    (ran longer : Ran (Session η ω) (Option Termination)) : Prop where
  /-- Every look of the loop finds the reason that was raised last. -/
  looks : ∀ (before after : Trace) (found : Option Termination),
    ran.events = before ++ .checked found :: after → found = before.lastReason first
  /-- Nothing but a raise changes the token. -/
  token_eq : ran.session.token = ran.events.lastReason first
  /-- When the console is asked to stop, the rest of the round is all that is left of its work.
  When it is the operator who asks, the rest shows nothing but the end of a line. -/
  in_time : ∀ (before after : Trace) (source : RaiseSource) (reason : Termination),
    ran.events = before ++ .raised source reason :: after →
      ∃ rest next, after = rest ++ next ∧
        Reactor.Place S (.raised source reason) rest ∧ rest.WithinRound ∧
        (source = .command ∨ source = .endOfInput → ∀ event ∈ rest, event.IsParting) ∧
        next.MeetsLook ∧ ∀ event ∈ next, event.topic ∈ [.aside, .look, .link, .closing]
  /-- A look that finds a reason ends the loop, and only the shutdown follows. -/
  for_good : ∀ (before after : Trace) (reason : Termination),
    ran.events = before ++ .checked (some reason) :: after →
      ran.value = some reason ∧ ∀ event ∈ after, event.topic ∈ [.aside, .link, .closing]
  /-- The run gives the reason that was raised last before the look that found it. -/
  value_eq : ∀ reason, ran.value = some reason →
    ∃ before after : Trace, ran.events = before ++ .checked (some reason) :: after ∧
      before.lastReason first = some reason
  /-- With a reason from the start, there is the prompt and the shutdown. -/
  from_start : first ≠ none → ran.events.output <+: Utf8.encode prompt ∧
    ∀ event ∈ ran.events, event.topic ∈ [.aside, .screen, .look, .link, .closing]
  /-- A run that was asked to stop, and whose rounds were all finished with a wait, has stopped
  when one more round begins. -/
  stops : (ran.events.lastReason first).isSome →
    ran.events.steps.length = (ran.events.about .wait).length → longer.value.isSome

/-- A run stops at the end of the round in which it is asked to, and for good. -/
theorem run_stopsInTime (S : Setting η ω) (rounds : Nat) (session : Session η ω) :
    StopsInTime S session.token (Reactor.run S rounds session)
      (Reactor.run S (rounds + 1) session) := by
  have hheld := Held.of_travels (Travels.run S rounds) session
  constructor
  · intro before after found htrace
    exact hheld.looks htrace
  · exact hheld.token_eq
  · intro before after source reason htrace
    have hlook : (Event.raised source reason).topic ≠ .look := by
      cases source <;> simp [Event.topic]
    obtain ⟨rest, next, rfl, hnext, hplace⟩ := Reactor.run_split S rounds session htrace hlook
    refine ⟨rest, next, rfl, hplace, hplace.withinRound S, fun hasked => ?_, hnext, ?_⟩
    · have hstop : (Event.raised source reason).topic = .stop := by
        rcases hasked with rfl | rfl <;> rfl
      obtain ⟨found, served, front, hserve⟩ := hplace.served S (by rw [hstop]; decide)
      exact (Parts.serve S found served front rest _ hstop hserve).1
    · rw [← List.cons_append, ← List.append_assoc] at htrace
      exact Reactor.topics_of_meetsLook S rounds session htrace
        (@Trace.isSome_lastReason_of_mem _ source reason _ (by simp)) hnext
  · intro before after reason htrace
    exact Reactor.run_look S rounds session htrace
  · intro reason hvalue
    obtain ⟨before, after, htrace⟩ :=
      List.append_of_mem (Reactor.checked_of_run_value S rounds session hvalue)
    exact ⟨before, after, htrace, (hheld.looks htrace).symm⟩
  · intro hfirst
    exact Reactor.run_from_start S rounds session (Option.isSome_iff_ne_none.mpr hfirst)
  · exact Reactor.run_stops S rounds session

end DeviceConsole
