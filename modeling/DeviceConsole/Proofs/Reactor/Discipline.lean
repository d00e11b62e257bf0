import DeviceConsole.Proofs.Reactor.Course
import DeviceConsole.Proofs.Reactor.Stopping

/-!
# What a round does, and how long it waits

Every round that is followed by a look has the same parts: a step of the engine, its outcomes,
one wait, and what is served.  What is served is what the wait has found.  A wait takes no time
while a line is waiting to be served, and otherwise as long as the engine allows, up to the
ceiling.

Main results:

- Theorem {lit}`Reactor.lines_serveInput`: serving the operator takes the next line, if there is
  one.
- Theorem {lit}`AnswersWait.serve`: what is served is what the wait has found.
- Theorem {lit}`Duration.min_waitCeiling_eq_zero`: only an engine that allows no time is not
  waited for.
- Theorem {lit}`run_keepsOrder`: a run has such rounds only.
-/

namespace DeviceConsole

variable {η ω α : Type}

/-! ## Lines that wait -/

namespace Trace

variable {topic : Topic}

/-- The lines of the operator's that are complete and have not been taken. -/
def waiting (trace : Trace) : List OperatorLine :=
  (LineStream.lines trace.bytesRead trace.inputEnded).drop trace.lines.length

@[simp]
theorem bytesRead_about (trace : Trace) : (trace.about .stream).bytesRead = trace.bytesRead := by
  induction trace with
  | nil => rfl
  | cons event trace ih =>
      have hsplit : bytesRead (event :: trace) = (bytesRead [event] ++ bytesRead trace) :=
        bytesRead_append [event] trace
      rw [about_cons, hsplit, ← ih]
      split
      · exact bytesRead_append [event] _
      · rename_i htopic
        cases event <;> first | rfl | exact absurd rfl htopic

@[simp]
theorem inputEnded_about (trace : Trace) :
    (trace.about .stream).inputEnded = trace.inputEnded := by
  induction trace with
  | nil => rfl
  | cons event trace ih =>
      have hsplit : inputEnded (event :: trace) = (inputEnded [event] || inputEnded trace) :=
        inputEnded_append [event] trace
      rw [about_cons, hsplit, ← ih]
      split
      · exact inputEnded_append [event] _
      · rename_i htopic
        cases event <;> first | rfl | exact absurd rfl htopic

/-- A read takes no line. -/
theorem lines_about_stream (trace : Trace) : (trace.about .stream).lines = [] := by
  rw [lines, List.filterMap_eq_nil_iff]
  intro event hmem
  have htopic : event.topic = .stream := by simpa using (List.mem_filter.mp hmem).2
  split
  · simp [Event.topic] at htopic
  · rfl

end Trace

/-- The lines that wait are those that the input holds. -/
theorem Serviced.waiting_eq {past : Trace} {session : Session η ω} (h : Serviced past session) :
    past.waiting = session.input.lines := by
  rw [Trace.waiting, ← h.closed_eq, ← h.assembled.lines_eq, List.drop_left]

/-- At the end of a chain that starts with an empty input, the input is what was read and taken. -/
theorem Serviced.of_chain {first last : Session η ω} {events : Trace}
    (hchain : Chain Step first events last) (hinput : first.input = .empty) :
    Serviced events last :=
  @Chain.keeps _ _ _ _ _ _ Serviced (fun h hstep => h.step hstep) hchain [] (Serviced.start hinput)

/-- An activity that concerns neither the stream nor its lines leaves asides only. -/
theorem Concerns.isAside {topics : List Topic} {activity : Activity (Session η ω) α}
    (h : Concerns topics activity) (hstream : .stream ∉ topics) (hline : .line ∉ topics)
    (session : Session η ω) : (activity session).events.IsAside where
  lines_eq := h.lines_eq_nil session hline
  bytesRead_eq := by
    rw [← Trace.bytesRead_about, h.about_eq_nil session hstream]
    rfl
  inputEnded_eq := by
    rw [← Trace.inputEnded_about, h.about_eq_nil session hstream]
    rfl

namespace Trace

theorem IsAside.append {left right : Trace} (hleft : left.IsAside) (hright : right.IsAside) :
    (left ++ right).IsAside where
  lines_eq := by rw [lines_append, hleft.lines_eq, hright.lines_eq]; rfl
  bytesRead_eq := by rw [bytesRead_append, hleft.bytesRead_eq, hright.bytesRead_eq]; rfl
  inputEnded_eq := by rw [inputEnded_append, hleft.inputEnded_eq, hright.inputEnded_eq]; rfl

/-- Asides make no line wait and take none. -/
theorem waiting_append (before : Trace) {between : Trace} (h : between.IsAside) (after : Trace) :
    (before ++ between ++ after).waiting = (before ++ after).waiting := by
  simp [waiting, h.lines_eq, h.bytesRead_eq, h.inputEnded_eq]

end Trace

/-! ## What is served -/

namespace Reactor

variable (S : Setting η ω)

/-- Reads the operator's stream when it is readable. -/
def fillWhen (readable : Bool) : Activity (Session η ω) Unit :=
  if readable then do
    Session.logFailure S .inputFailed (← Session.fillInput S)
  else
    pure ()

theorem serveInput_eq (readable : Bool) :
    serveInput S readable = fillWhen S readable >>= fun _ => serveNextLine S := by
  cases readable with
  | false => rfl
  | true => rw [serveInput, fillWhen, if_pos rfl, if_pos rfl, Activity.bind_assoc]

theorem travels_fillWhen (readable : Bool) : Travels Step (fillWhen S readable) := by
  cases readable with
  | false => exact Travels.pure _
  | true => exact ((Travels.fillInput S).bind fun _ => Travels.logFailure S _ _).steps

theorem concerns_fillWhen (readable : Bool) : Concerns [.aside, .stream] (fillWhen S readable) := by
  cases readable with
  | false => exact Concerns.pure _
  | true => exact Concerns.bind (Concerns.fillInput S) fun _ =>
      (Concerns.logFailure S _ _).mono (by decide)

/-- The stream is read once, unless it has ended. -/
theorem length_about_fillInput (session : Session η ω) :
    ((Session.fillInput S session).events.about .stream).length =
      if session.input.closed then 0 else 1 := by
  unfold Session.fillInput
  rw [Activity.get_bind_run]
  split
  · rfl
  · simp only [Activity.bind_events, Activity.modifyGet_run, Activity.emit_run, Trace.about_append,
      (Concerns.attend S).about_eq_nil session (show Topic.stream ∉ [Topic.aside] by decide)]
    rfl

theorem length_about_serveInput (readable : Bool) (session : Session η ω) :
    ((serveInput S readable session).events.about .stream).length =
      if readable ∧ session.input.closed = false then 1 else 0 := by
  rw [serveInput_eq, Activity.bind_events, Trace.about_append,
    (Concerns.serveNextLine S).about_eq_nil _ (by decide), List.append_nil]
  cases readable with
  | false => rfl
  | true =>
      have hfill : (fillWhen S true session).events.about .stream =
          (Session.fillInput S session).events.about .stream := by
        simp only [fillWhen, if_true, Activity.bind_events, Trace.about_append]
        rw [(Concerns.logFailure S _ _).about_eq_nil _ (by decide), List.append_nil]
      rw [hfill, length_about_fillInput]
      cases session.input.closed <;> rfl

/-- The next line is taken when one is waiting. -/
theorem lines_serveNextLine (session : Session η ω) :
    (serveNextLine S session).events.lines = session.input.lines.take 1 := by
  unfold serveNextLine
  rw [Activity.bind_events, Trace.lines_append]
  cases hlines : session.input.lines with
  | nil =>
      simp [Session.takeLine, LineAssembler.takeLine, hlines,
        (Travels.endInput S).lines_eq_nil, Trace.lines_nil]
  | cons line rest =>
      simp [Session.takeLine, LineAssembler.takeLine, hlines,
        (Travels.serveLine S line).lines_eq_nil, Trace.lines_lineTaken]

/-- Serving the operator takes the next line that waits after the read, if there is one. -/
theorem lines_serveInput {past : Trace} {session : Session η ω} (h : Serviced past session)
    (readable : Bool) :
    (serveInput S readable session).events.lines =
      (past ++ (serveInput S readable session).events.about .stream).waiting.take 1 := by
  let filled := fillWhen S readable session
  let taken := serveNextLine S filled.session
  have hfilled : Serviced (past ++ filled.events) filled.session :=
    (travels_fillWhen S readable session).keeps (fun h hstep => h.step hstep) h
  have hlines : filled.events.lines = [] :=
    (concerns_fillWhen S readable).lines_eq_nil session (by decide)
  have hevents : (serveInput S readable session).events = filled.events ++ taken.events := by
    rw [serveInput_eq, Activity.bind_events]
  have hstream : (filled.events ++ taken.events).about .stream = filled.events.about .stream := by
    rw [Trace.about_append, (Concerns.serveNextLine S).about_eq_nil _ (by decide), List.append_nil]
  rw [hevents, hstream, Trace.lines_append, hlines, List.nil_append,
    show taken.events.lines = _ from lines_serveNextLine S filled.session, ← hfilled.waiting_eq]
  simp [Trace.waiting, hlines, Trace.lines_about_stream]

end Reactor

/-- What is served after a wait, when so much has happened before it, is what the wait has found. -/
structure AnswersWait (past : Trace) (found : Except WaitFailure Readiness) (served : Trace) :
    Prop where
  /-- When the socket is ready, it is asked once for a datagram, which the engine may answer. -/
  socket : found = .ok .socket → served.receipts.length = 1 ∧
    ∀ event ∈ served, event.topic ∈ [.aside, .link, .socket]
  /-- When the operator's stream is ready, it is read once, unless it has ended. -/
  input : found = .ok .input → served.about .socket = [] ∧
    (served.about .stream).length = if past.inputEnded then 0 else 1
  /-- When nothing is ready, nothing is read. -/
  idle : found = .ok .idle → served.about .socket = [] ∧ served.about .stream = []
  /-- In both of these cases the next line is taken that is complete by then, if there is one. -/
  line : found = .ok .input ∨ found = .ok .idle →
    served.lines = (past ++ served.about .stream).waiting.take 1
  /-- After a wait that has failed, nothing is served. -/
  failed : ∀ failure, found = .error failure → ∀ event ∈ served, event.topic = .aside

namespace AnswersWait

variable {past served : Trace} {found : Except WaitFailure Readiness}

/-- What is served is what the wait has found. -/
theorem serve (S : Setting η ω) {session : Session η ω} (h : Serviced past session)
    (found : Except WaitFailure Readiness) :
    AnswersWait past found (Reactor.serve S found session).events := by
  constructor
  · rintro rfl
    refine ⟨?_, Concerns.serveSocket S session⟩
    rw [Reactor.serve, Reactor.receipts_serveSocket]
    rfl
  · rintro rfl
    refine ⟨(Concerns.serveInput S true).about_eq_nil session (by decide), ?_⟩
    rw [Reactor.serve, Reactor.length_about_serveInput, h.closed_eq]
    cases past.inputEnded <;> rfl
  · rintro rfl
    refine ⟨(Concerns.serve_of_ne S (by decide)).about_eq_nil session (by decide), ?_⟩
    rw [Reactor.serve, Activity.get_bind_run]
    split
    · rw [← List.length_eq_zero_iff, Reactor.length_about_serveInput, if_neg (by simp)]
    · rfl
  · rintro (rfl | rfl)
    · exact Reactor.lines_serveInput S h true
    · rw [Reactor.serve, Activity.get_bind_run]
      split
      · exact Reactor.lines_serveInput S h false
      · rename_i hnone
        have hempty : past.waiting = [] := by
          rw [h.waiting_eq]
          simpa [LineAssembler.hasLine] using hnone
        simp [hempty, Trace.lines_nil]
  · rintro failure rfl event hmem
    cases failure with
    | interrupted => simp [Reactor.serve] at hmem
    | failed cause => simpa using Concerns.log S _ session event hmem

/-- Interrupts in front of the next look change nothing. -/
theorem append (h : AnswersWait past found served) {interrupts : Trace}
    (hinterrupts : ∀ event ∈ interrupts, event = .raised .interrupt .interrupted) :
    AnswersWait past found (served ++ interrupts) := by
  have htopics := Trace.topics_interrupts hinterrupts
  have habout (topic : Topic) (hne : topic ∉ [Topic.aside]) :
      (served ++ interrupts).about topic = served.about topic := by
    rw [Trace.about_append, Trace.about_eq_nil htopics hne, List.append_nil]
  have hsocket := habout .socket (by decide)
  have hstream := habout .stream (by decide)
  have hreceipts : (served ++ interrupts).receipts = served.receipts := by
    rw [← Trace.receipts_about, hsocket, Trace.receipts_about]
  have hlines : (served ++ interrupts).lines = served.lines := by
    rw [← Trace.lines_about, habout .line (by decide), Trace.lines_about]
  constructor
  · rw [hreceipts]
    intro hfound
    obtain ⟨hone, hserved⟩ := h.socket hfound
    refine ⟨hone, fun event hmem => ?_⟩
    rcases List.mem_append.mp hmem with hmem | hmem
    · exact hserved event hmem
    · simp [List.mem_singleton.mp (htopics event hmem)]
  · rw [hsocket, hstream]
    exact h.input
  · rw [hsocket, hstream]
    exact h.idle
  · rw [hlines, hstream]
    exact h.line
  · intro failure hfound event hmem
    rcases List.mem_append.mp hmem with hmem | hmem
    · exact h.failed failure hfound event hmem
    · exact List.mem_singleton.mp (htopics event hmem)

/-- Asides that came before make no difference. -/
theorem of_aside {before between : Trace} (h : AnswersWait (before ++ between) found served)
    (haside : between.IsAside) : AnswersWait before found served where
  socket := h.socket
  input := by
    intro hfound
    have hinput := h.input hfound
    rwa [Trace.inputEnded_append, haside.inputEnded_eq, Bool.or_false] at hinput
  idle := h.idle
  line := by
    intro hfound
    rw [h.line hfound, Trace.waiting_append before haside]
  failed := h.failed

end AnswersWait

/-! ## How long a wait may be -/

namespace Duration

/-- Only an engine that allows no time is not waited for. -/
theorem min_waitCeiling_eq_zero {duration : Duration} :
    duration.min waitCeiling = .zero ↔ duration = .zero := by
  rcases duration with ⟨nanoseconds⟩
  simp only [min, waitCeiling, ofMilliseconds, zero, Duration.mk.injEq, Nat.min_def]
  split <;> omega

theorem milliseconds_min_waitCeiling (duration : Duration) :
    (duration.min waitCeiling).milliseconds = Nat.min duration.milliseconds 60000 := by
  rcases duration with ⟨nanoseconds⟩
  simp only [min, waitCeiling, ofMilliseconds, milliseconds, Nat.min_def]
  split <;> split <;> omega

end Duration

/-- How the wait primitive is asked to wait for a given time. -/
structure Polls (timeout : Duration) : Prop where
  /-- The milliseconds asked for fit the sixteen bits, so nothing stands in for them. -/
  fits : (timeout.min waitCeiling).milliseconds < 65536
  /-- They are the whole ones of the time, and at most a minute. -/
  toNat_eq : (pollMilliseconds timeout).toNat = Nat.min timeout.milliseconds 60000
  /-- That is never longer than the time. -/
  le : (Duration.ofMilliseconds (pollMilliseconds timeout).toNat).nanoseconds ≤ timeout.nanoseconds

theorem polls (timeout : Duration) : Polls timeout := by
  have hfits : (timeout.min waitCeiling).milliseconds < 65536 := by
    rw [Duration.milliseconds_min_waitCeiling]
    exact Nat.lt_of_le_of_lt (Nat.min_le_right _ _) (by decide)
  have htoNat : (pollMilliseconds timeout).toNat = Nat.min timeout.milliseconds 60000 := by
    rw [pollMilliseconds, if_pos hfits, UInt16.toNat_ofNat_of_lt' hfits,
      Duration.milliseconds_min_waitCeiling]
  refine ⟨hfits, htoNat, ?_⟩
  rw [htoNat]
  calc (Duration.ofMilliseconds (Nat.min timeout.milliseconds 60000)).nanoseconds
      ≤ (Duration.ofMilliseconds timeout.milliseconds).nanoseconds :=
        Nat.mul_le_mul_right _ (Nat.min_le_left _ _)
    _ ≤ timeout.nanoseconds := timeout.ofMilliseconds_milliseconds_le

/-! ## A round -/

/-- The parts of a round that is followed by a look, when so much has happened before it. -/
structure RoundParts (before during : Trace) (answer : Except StepFailure Duration)
    (timeout : Duration) (found : Except WaitFailure Readiness)
    (stepping showing served : Trace) : Prop where
  /-- The engine answers a step, its outcomes are shown, the console waits, and what it has found
  is served. -/
  during_eq : during =
    stepping ++ .stepped answer :: (showing ++ .waited timeout found :: served)
  /-- There is one step. -/
  step_once : during.about .step = [.called .step, .stepped answer]
  /-- There is one wait. -/
  wait_once : during.about .wait = [.waited timeout found]
  /-- During its step the engine sends, asks for something on the side or tells the log. -/
  stepping_topics : ∀ event ∈ stepping, event.topic ∈ [.aside, .link, .step]
  /-- Then outcomes are taken and shown until there is none. -/
  showing_topics : ∀ event ∈ showing, event.topic ∈ [.aside, .screen, .queue]
  emptied : ∃ shown rest : Trace, showing = shown ++ .popped none :: rest ∧
    ∀ event ∈ rest, event.topic = .aside
  /-- The wait is for no time while a line is waiting, and otherwise for as long as the engine has
  allowed, up to the ceiling; after a step that has failed it is for the ceiling. -/
  timeout_eq : timeout =
    if before.waiting = [] then (Reactor.allowance answer).min waitCeiling else .zero
  timeout_zero : timeout = .zero ↔ before.waiting ≠ [] ∨ answer = .ok .zero
  /-- What is served is what the wait has found. -/
  serves : AnswersWait before found served

theorem timeout_eq_zero_iff (waiting : List OperatorLine) (answer : Except StepFailure Duration) :
    (if waiting = [] then (Reactor.allowance answer).min waitCeiling else .zero) = Duration.zero ↔
      waiting ≠ [] ∨ answer = .ok .zero := by
  cases waiting with
  | cons line rest => simp
  | nil =>
      rw [if_pos rfl, Duration.min_waitCeiling_eq_zero]
      cases answer with
      | ok duration => simp [Reactor.allowance]
      | error failure =>
          simp [Reactor.allowance, waitCeiling, Duration.ofMilliseconds, Duration.zero]

namespace Reactor

variable {S : Setting η ω}

variable (S) in
/-- The look in front of a round, and the round up to the last of its outcomes. -/
def throughDrain (begun : Session η ω) : Trace :=
  .checked none :: ((stepEngine S begun).events ++ (drained S begun).events)

variable (S) in
/-- The look in front of a round, and the round up to the end of its wait. -/
def throughWait (begun : Session η ω) : Trace :=
  throughDrain S begun ++ (waited S begun).events

theorem isAside_throughDrain (begun : Session η ω) : (throughDrain S begun).IsAside := by
  have hlook : Trace.IsAside [.checked none] := ⟨rfl, rfl, rfl⟩
  have hstep := (Concerns.stepEngineOnce S).isAside (by decide) (by decide) begun
  have hdrain : (drained S begun).events.IsAside :=
    (Concerns.drain S S.patience).isAside (by decide) (by decide) _
  exact hlook.append (hstep.append hdrain)

/-- Up to the end of its wait, a round leaves the operator's input alone. -/
theorem isAside_throughWait (begun : Session η ω) : (throughWait S begun).IsAside := by
  have hwait : (waited S begun).events.IsAside :=
    (Concerns.wait S _).isAside (by decide) (by decide) _
  exact (isAside_throughDrain begun).append hwait

variable {first begun : Session η ω} {before during after : Trace}

/-- What a round of a run has led to when its outcomes are shown. -/
theorem Round.reached_drained (h : Round S first before during after begun) :
    Chain Step first (before ++ throughDrain S begun) (drained S begun).session := by
  have hstepped := (Travels.stepEngineOnce S).steps begun
  have hdrained : Chain Step _ (drained S begun).events (drained S begun).session :=
    (Travels.drain S S.patience).steps (Session.stepEngine S begun).session
  rw [stepEngine_session] at hstepped
  have hchain := (h.reached.trans hstepped).trans hdrained
  simpa [throughDrain] using hchain

/-- What a round of a run has led to when it has waited. -/
theorem Round.reached_waited (h : Round S first before during after begun) :
    Chain Step first (before ++ throughWait S begun) (waited S begun).session := by
  have hwaited : Chain Step _ (waited S begun).events (waited S begun).session :=
    (Travels.wait S _).steps (drained S begun).session
  have hchain := h.reached_drained.trans hwaited
  rwa [List.append_assoc] at hchain

/-- The wait of a round is as long as it may be. -/
theorem Round.timeout_eq (h : Round S first before during after begun)
    (hinput : first.input = .empty) (answer : Except StepFailure Duration) :
    timeout (drained S begun).session.input.hasLine (allowance answer) =
      if before.waiting = [] then (allowance answer).min waitCeiling else .zero := by
  have hwaiting := (Serviced.of_chain h.reached_drained hinput).waiting_eq
  have haside : (throughDrain S begun).IsAside := isAside_throughDrain begun
  have hbefore := Trace.waiting_append before haside []
  rw [List.append_nil, List.append_nil, hwaiting] at hbefore
  rw [LineAssembler.hasLine, hbefore, timeout]
  cases before.waiting <;> rfl

/-- A round in the course of a run has these parts. -/
theorem Round.parts (h : Round S first before during after begun) (hinput : first.input = .empty)
    (hafter : after ≠ []) : ∃ answer timeout found stepping showing served,
      RoundParts before during answer timeout found stepping showing served := by
  have hfinished := h.finished hafter
  obtain ⟨stepping, logs, interrupts, hparted⟩ := h.parted S hfinished
  obtain ⟨shown, hshown⟩ : ∃ shown : Trace, (drained S begun).events = shown ++ [.popped none] := by
    rw [iterate_value_eq] at hfinished
    exact drain_events S _ _ hfinished
  -- What is told to the log behind the step, and an interrupt in front of the wait, count to the
  -- part in which the outcomes are shown; interrupts in front of the next look to what is served.
  let answer := (Session.stepEngine S begun).value
  let attended := Session.attend S (drained S begun).session
  let found := (waited S begun).value
  let served := serve S found (waited S begun).session
  let showing := logs ++ ((drained S begun).events ++ attended.events)
  have hattended : ∀ event ∈ attended.events, event.topic = .aside := by
    intro event hmem
    simpa using Concerns.attend S (drained S begun).session event hmem
  have hshowing : ∀ event ∈ showing, event.topic ∈ [.aside, .screen, .queue] := by
    intro event hmem
    rw [List.mem_append, List.mem_append] at hmem
    rcases hmem with hmem | hmem | hmem
    · simp [hparted.logs_topic event hmem]
    · exact Concerns.drain S S.patience (Session.stepEngine S begun).session event hmem
    · simp [hattended event hmem]
  have hserved : ∀ event ∈ served.events ++ interrupts, event.topic ∈
      [.aside, .screen, .link, .socket, .request, .stop, .line, .stream] := by
    intro event hmem
    rcases List.mem_append.mp hmem with hmem | hmem
    · exact Concerns.serve S found (waited S begun).session event hmem
    · rw [hparted.interrupts_eq event hmem]
      decide
  have hserves : AnswersWait before found served.events :=
    (AnswersWait.serve S (Serviced.of_chain h.reached_waited hinput) found).of_aside
      (isAside_throughWait begun)
  have hsplit : during = stepping ++ .stepped answer :: (showing ++
      .waited (if before.waiting = [] then (allowance answer).min waitCeiling else .zero) found ::
        (served.events ++ interrupts)) := by
    rw [← h.timeout_eq hinput, hparted.during_eq]
    simp only [showing, List.append_assoc]
    rfl
  refine ⟨answer, _, found, stepping, showing, served.events ++ interrupts, hsplit, ?_, ?_,
    hparted.stepping_topics, hshowing, ?_, rfl, timeout_eq_zero_iff _ _,
    hserves.append hparted.interrupts_eq⟩
  · rw [hsplit, Trace.about_append, Trace.about_cons, Trace.about_append, Trace.about_cons,
      hparted.step_once, Trace.about_eq_nil hshowing (by decide),
      Trace.about_eq_nil hserved (by decide)]
    rfl
  · rw [hsplit, Trace.about_append, Trace.about_cons, Trace.about_append, Trace.about_cons,
      Trace.about_eq_nil hparted.stepping_topics (by decide),
      Trace.about_eq_nil hshowing (by decide), Trace.about_eq_nil hserved (by decide)]
    rfl
  · exact ⟨logs ++ shown, attended.events, by simp [showing, hshown], hattended⟩

end Reactor

/-! ## A run -/

/-- How a run goes about its rounds. -/
structure KeepsOrder (trace : Trace) : Prop where
  /-- What lies between a look and the next one are the parts of a round. -/
  rounds : ∀ (before during after : Trace) (earlier found : Option Termination),
    trace = before ++ .checked earlier :: (during ++ .checked found :: after) →
    during.IsLookless → ∃ answer timeout readiness stepping showing served,
      RoundParts before during answer timeout readiness stepping showing served
  /-- The wait primitive is never asked for longer than the wait is to be. -/
  polled : ∀ timeout : Duration, Polls timeout

/-- A run steps the engine, shows its outcomes, waits and serves what it has found, once between
any two looks. -/
theorem run_keepsOrder (S : Setting η ω) (rounds : Nat) (session : Session η ω) :
    KeepsOrder (Reactor.run S rounds { session with input := .empty }).events := by
  refine ⟨?_, polls⟩
  intro before during after earlier found htrace hduring
  have hearlier : earlier = none := by
    cases earlier with
    | none => rfl
    | some reason =>
        have htopics := (Reactor.run_look S rounds _ htrace).2
        have hfound := htopics (.checked found) (by simp)
        simp [Event.topic] at hfound
  subst hearlier
  have hround := Reactor.run_round S rounds _ ⟨htrace, hduring, Or.inr ⟨found, after, rfl⟩⟩
  exact hround.parts rfl (by simp)

end DeviceConsole
