import DeviceConsole.Proofs.Command.EngineCalls
import DeviceConsole.Proofs.Reactor.Course
import DeviceConsole.Proofs.Reactor.Prompts
import DeviceConsole.Proofs.Session.Dialogues
import DeviceConsole.Proofs.Session.Screens
import DeviceConsole.Script.Engine

/-!
# How outcomes are shown

In every round the outcomes that the engine has queued are taken and shown, one by one and in
their order, until there is none, and only then does the console wait.  A screen that takes only
a part of a text, or none of it, holds up nothing.  What is queued after that, while a datagram or
a line is served, is shown first in the next round; what is queued when the loop is left is not
shown any more.

Main results:

- Theorem {lit}`Reactor.presentation_drain`: a drain takes and shows what the engine hands over.
- Theorem {lit}`Engine.KeepsQueue.outcomes_eq`: that is the whole queue, in its order.
- Theorem {lit}`Outcome.body_registration_ne_empty_iff`: when a device is shown with its
  registration.
- Theorem {lit}`run_showsOutcomes`: a run shows the outcomes of its engine.
-/

namespace DeviceConsole

variable {η ω α : Type}

/-! ## Outcomes of an engine -/

/-- What an engine hands over until it has no outcome, at most so many times: the outcomes, each
with the devices that are registered once it was handed over. -/
def Engine.outcomes (engine : Engine η) : Nat → η → List (Outcome × Registry)
  | 0, _ => []
  | n + 1, state =>
      let answer := engine.nextOutcome state
      match answer.value with
      | none => []
      | some outcome => (outcome, engine.registry answer.engine) :: engine.outcomes n answer.engine

/-- An engine that keeps its outcomes in a queue: it hands over the oldest one, and what it queues
during a step comes behind those that are there. -/
structure Engine.KeepsQueue (engine : Engine η) (queue : η → List Outcome) : Prop where
  value_eq : ∀ state, (engine.nextOutcome state).value = (queue state).head?
  queue_eq : ∀ state, queue (engine.nextOutcome state).engine = (queue state).tail
  step : ∀ state result, (engine.step state).Ends result → queue state <+: queue result.1

/-- What is taken from the engine's queue and what is written to the screen. -/
def Trace.presentation (trace : Trace) : Trace :=
  trace.filter fun event => event.topic = .queue ∨ event.topic = .screen

namespace Trace

@[simp]
theorem presentation_append (left right : Trace) :
    (left ++ right).presentation = left.presentation ++ right.presentation :=
  List.filter_append _ _

theorem presentation_eq_nil {topics : List Topic} {trace : Trace}
    (h : ∀ event ∈ trace, event.topic ∈ topics) (hqueue : .queue ∉ topics)
    (hscreen : .screen ∉ topics) : trace.presentation = [] := by
  rw [presentation, List.filter_eq_nil_iff]
  intro event hmem
  simp only [decide_eq_true_eq]
  rintro (htopic | htopic)
  · exact hqueue (htopic ▸ h event hmem)
  · exact hscreen (htopic ▸ h event hmem)

/-- A view that sees what is taken from the queue or shown sees the same in the presentation. -/
theorem filterMap_presentation {γ : Type} {view : Event → Option γ}
    (hview : ∀ event, event.topic ≠ .queue → event.topic ≠ .screen → view event = none)
    (trace : Trace) : trace.presentation.filterMap view = trace.filterMap view := by
  rw [presentation, List.filterMap_filter]
  congr 1
  funext event
  split
  · rfl
  · rename_i htopic
    rw [decide_eq_true_eq, not_or] at htopic
    exact (hview event htopic.1 htopic.2).symm

theorem texts_presentation (trace : Trace) : trace.presentation.texts = trace.texts := by
  refine filterMap_presentation (fun event _ hscreen => ?_) trace
  split
  · exact absurd rfl hscreen
  · rfl

end Trace

/-- What is left on a screen by outcomes that are taken and shown in a row. -/
def Console.presents (console : Console) : List (Outcome × Registry) → Trace
  | [] => []
  | (outcome, registry) :: rest =>
      let bytes := Utf8.encode (outcome.text registry)
      .called .nextOutcome :: .popped (some outcome) :: .wrote (console.clip bytes) ::
        (console.after bytes).presents rest

namespace Session

variable (S : Setting η ω) (session : Session η ω)

/-- A step leaves the engine where its dialogue may end. -/
theorem stepEngine_ends :
    (S.engine.step session.engine).Ends
        ((stepEngine S session).session.engine, (stepEngine S session).value) ∧
      (stepEngine S session).session.console = session.console := by
  obtain ⟨host, token, hattended⟩ := Travels.attend_session S session
  let noted := note S (.called .step) session
  let spoken := converse S (S.engine.step noted.session.engine) noted.session
  have hnoted : noted.session = { session with host, token } := hattended
  have hvalue : (stepEngine S session).value = spoken.value.2 := rfl
  have hsession : (stepEngine S session).session =
      { spoken.session with engine := spoken.value.1 } := rfl
  have hends := (converse_carriedOut S noted.session (S.engine.step noted.session.engine)).ends
  obtain ⟨hostAfter, last, hspoken⟩ :=
    converse_session S noted.session (S.engine.step noted.session.engine)
  have hsaid : spoken.session = { noted.session with host := hostAfter, token := last } := hspoken
  constructor
  · rw [hvalue, hsession, ← note_engine S session (.called .step)]
    exact hends
  · rw [hsession, hsaid, hnoted]

/-- Taking an outcome asks the engine once. -/
theorem presentation_popOutcome :
    (popOutcome S session).events.presentation =
      [.called .nextOutcome, .popped (S.engine.nextOutcome session.engine).value] := by
  let noted := note S (.called .nextOutcome) session
  let answer := S.engine.nextOutcome noted.session.engine
  have hevents : (popOutcome S session).events = noted.events ++
      ((heedAll S answer.remarks noted.session).events ++ [.popped answer.value]) := rfl
  have hnoted : noted.events.presentation = [.called .nextOutcome] := by
    simp only [noted, note_events]
    split <;> rfl
  have hengine : noted.session.engine = session.engine := note_engine S session _
  rw [hevents, Trace.presentation_append, Trace.presentation_append, hnoted,
    Trace.presentation_eq_nil (Concerns.heedAll S _ _) (by decide) (by decide)]
  simp only [answer, hengine]
  rfl

/-- Taking an outcome changes the engine only, but for asides. -/
theorem popOutcome_session : ∃ host token,
    (popOutcome S session).session =
      { session with engine := (S.engine.nextOutcome session.engine).engine, host, token } := by
  obtain ⟨host, token, hnoted⟩ := Travels.attend_session S session
  let answer := S.engine.nextOutcome session.engine
  obtain ⟨last, hheeded⟩ := heedAll_session S { session with host, token } answer.remarks
  have hnote : (note S (.called .nextOutcome) session).session = { session with host, token } :=
    hnoted
  refine ⟨host, last, ?_⟩
  rw [popOutcome, Activity.bind_session, Activity.get_bind_run, hnote]
  simp only [Activity.bind_session, Activity.modify_run, Activity.emit_run, Activity.pure_run]
  rw [show S.engine.nextOutcome _ = answer from rfl, hheeded]

theorem popOutcome_value :
    (popOutcome S session).value = (S.engine.nextOutcome session.engine).value := by
  rw [popOutcome, Activity.bind_value, Activity.get_bind_run, note_engine]
  rfl

/-- Writing a text leaves what the screen takes of it. -/
theorem presentation_writeFlushed (text : String) :
    (writeFlushed S text session).events.presentation =
      [.wrote (session.console.clip (Utf8.encode text))] := by
  rw [writeFlushed_events, write_events, Trace.presentation_append,
    Trace.presentation_eq_nil (Concerns.attend S session) (by decide) (by decide)]
  rfl

theorem writeFlushed_session (text : String) : ∃ host token,
    (writeFlushed S text session).session =
      { session with console := session.console.after (Utf8.encode text), host, token } := by
  obtain ⟨host, token, hattended⟩ := Travels.attend_session S session
  have hwrite : (write S text session).session =
      { session with console := session.console.after (Utf8.encode text), host, token } := by
    rw [← Console.write_console]
    simp [write, hattended]
  refine ⟨host, token, ?_⟩
  rw [writeFlushed, Activity.bind_session, ← hwrite]
  cases (write S text session).value with
  | ok _ => rfl
  | error failure => rfl

end Session

section

variable (S : Setting η ω) (session : Session η ω)

theorem logUnknown_session (outcome : Outcome) :
    (logUnknown S outcome session).session = session := by
  unfold logUnknown
  split
  · split
    · exact Session.log_session S _ session
    · rfl
  · rfl

theorem deliver_eq (outcome : Outcome) :
    deliver S outcome session = (logUnknown S outcome >>= fun _ =>
      Session.writeFlushed S (outcome.text (S.engine.registry session.engine))) session := by
  rw [deliver, Session.registry, Activity.bind_assoc, Activity.get_bind_run, Activity.pure_bind]

/-- Showing an outcome writes its text, with the devices that are registered at the moment. -/
theorem presentation_deliver (outcome : Outcome) :
    (deliver S outcome session).events.presentation =
      [.wrote (session.console.clip
        (Utf8.encode (outcome.text (S.engine.registry session.engine))))] := by
  rw [deliver_eq, Activity.bind_events, Trace.presentation_append, logUnknown_session,
    Trace.presentation_eq_nil (Concerns.logUnknown S outcome session) (by decide) (by decide),
    Session.presentation_writeFlushed]
  rfl

theorem deliver_session (outcome : Outcome) : ∃ host token,
    (deliver S outcome session).session = { session with
      console := session.console.after
        (Utf8.encode (outcome.text (S.engine.registry session.engine)))
      host
      token } := by
  rw [deliver_eq, Activity.bind_session, logUnknown_session]
  exact Session.writeFlushed_session S session _

end

namespace Reactor

variable (S : Setting η ω)

/-- A drain stops when the engine has no outcome. -/
theorem drain_of_none {session : Session η ω}
    (hnone : (S.engine.nextOutcome session.engine).value = none) (n : Nat) :
    (drain S (n + 1) session).value = true ∧
      (drain S (n + 1) session).session = (Session.popOutcome S session).session ∧
      (drain S (n + 1) session).events = (Session.popOutcome S session).events := by
  rw [← Session.popOutcome_value] at hnone
  rw [drain, Activity.bind_value, Activity.bind_session, Activity.bind_events, hnone]
  exact ⟨rfl, rfl, List.append_nil _⟩

/-- A drain shows an outcome that it has taken, and goes on. -/
theorem drain_of_some {session : Session η ω} {outcome : Outcome}
    (hsome : (S.engine.nextOutcome session.engine).value = some outcome) (n : Nat) :
    let bytes := Utf8.encode
      (outcome.text (S.engine.registry (S.engine.nextOutcome session.engine).engine))
    ∃ next : Session η ω, next.engine = (S.engine.nextOutcome session.engine).engine ∧
      next.console = session.console.after bytes ∧
      (drain S (n + 1) session).value = (drain S n next).value ∧
      (drain S (n + 1) session).session = (drain S n next).session ∧
      (drain S (n + 1) session).events.presentation =
        .called .nextOutcome :: .popped (some outcome) :: .wrote (session.console.clip bytes) ::
          (drain S n next).events.presentation := by
  intro bytes
  let popped := Session.popOutcome S session
  let delivered := deliver S outcome popped.session
  let logged := Session.logFailure S .outcomeNotPrinted delivered.value delivered.session
  have hvalue : popped.value = some outcome := by rw [Session.popOutcome_value, hsome]
  have hpopped : popped.events.presentation = [.called .nextOutcome, .popped (some outcome)] := by
    rw [Session.presentation_popOutcome, hsome]
  obtain ⟨host, token, hsession⟩ := Session.popOutcome_session S session
  have hengine : popped.session.engine = (S.engine.nextOutcome session.engine).engine := by
    simp only [popped, hsession]
  have hconsole : popped.session.console = session.console := by
    simp only [popped, hsession]
  have hdelivered : delivered.events.presentation = [.wrote (session.console.clip bytes)] := by
    simp only [delivered, presentation_deliver, hengine, hconsole, bytes]
  obtain ⟨hostAfter, tokenAfter, hafter⟩ := deliver_session S popped.session outcome
  have hlogged : logged.session = delivered.session := by
    simp only [logged]
    cases delivered.value with
    | ok _ => rfl
    | error failure => exact Session.log_session S _ _
  have hdrain : drain S (n + 1) session = ⟨(drain S n logged.session).value,
      popped.events ++ (delivered.events ++ (logged.events ++ (drain S n logged.session).events)),
      (drain S n logged.session).session⟩ := by
    rw [drain, Activity.bind_run, show (Session.popOutcome S session).value = _ from hvalue]
    rfl
  refine ⟨logged.session, ?_, ?_, by rw [hdrain], by rw [hdrain], ?_⟩
  · rw [hlogged]
    simp only [delivered, hafter, hengine]
  · rw [hlogged]
    simp only [delivered, hafter, hengine, hconsole, bytes]
  · rw [hdrain]
    dsimp only
    rw [Trace.presentation_append, Trace.presentation_append, Trace.presentation_append, hpopped,
      hdelivered, Trace.presentation_eq_nil (Concerns.logFailure S _ _ _) (by decide) (by decide)]
    rfl

/-- A drain takes and shows what the engine hands over, one after the other; when it comes to an
end, the engine has no outcome. -/
theorem presentation_drain (n : Nat) (session : Session η ω) :
    (drain S n session).events.presentation =
      session.console.presents (S.engine.outcomes n session.engine) ++
        if (drain S n session).value then [.called .nextOutcome, .popped none] else [] := by
  -- Showing an outcome leaves the engine as the call for it has, whether the screen took the text
  -- or not, and the screen without what it took.
  induction n generalizing session with
  | zero => rfl
  | succ n ih =>
      cases hvalue : (S.engine.nextOutcome session.engine).value with
      | none =>
          obtain ⟨hended, -, hevents⟩ := drain_of_none S hvalue n
          rw [hevents, hended, Session.presentation_popOutcome, hvalue, Engine.outcomes]
          simp only [hvalue]
          rfl
      | some outcome =>
          obtain ⟨next, hengine, hconsole, hended, -, hevents⟩ := drain_of_some S hvalue n
          rw [hevents, hended, ih next, hengine, hconsole, Engine.outcomes]
          simp only [hvalue]
          rfl

/-- When the engine keeps a queue, a drain comes to an end if it may ask more often than there are
outcomes in it, and leaves those that it has not taken. -/
theorem drain_queue {queue : η → List Outcome} (h : S.engine.KeepsQueue queue) (n : Nat)
    (session : Session η ω) :
    ((drain S n session).value = true ↔ (queue session.engine).length < n) ∧
      queue (drain S n session).session.engine = (queue session.engine).drop n := by
  induction n generalizing session with
  | zero => simp [drain]
  | succ n ih =>
      have hvalue := h.value_eq session.engine
      have hqueue := h.queue_eq session.engine
      cases hfirst : queue session.engine with
      | nil =>
          rw [hfirst, List.head?_nil] at hvalue
          rw [hfirst, List.tail_nil] at hqueue
          obtain ⟨hended, hsession, -⟩ := drain_of_none S hvalue n
          obtain ⟨host, token, hpopped⟩ := Session.popOutcome_session S session
          rw [hended, hsession, hpopped]
          simp [hqueue]
      | cons outcome rest =>
          rw [hfirst, List.head?_cons] at hvalue
          rw [hfirst, List.tail_cons] at hqueue
          obtain ⟨next, hengine, -, hended, hsession, -⟩ := drain_of_some S hvalue n
          rw [hended, hsession, List.length_cons, List.drop_succ_cons]
          have hnext := ih next
          rw [hengine, hqueue] at hnext
          exact ⟨hnext.1.trans (by omega), hnext.2⟩

end Reactor

/-! ## What an outcome looks like -/

namespace Outcome

end Outcome

namespace Reactor

variable (S : Setting η ω)

/-- The outcomes that a round shows, each with the devices that are registered at the moment: those
that the engine hands over when it has stepped. -/
def outcomes (begun : Session η ω) : List (Outcome × Registry) :=
  S.engine.outcomes S.patience (Session.stepEngine S begun).session.engine

/-- The parts of a round, by what is taken from the engine's queue and what is written. -/
structure RoundShows (begun : Session η ω) (during stepping showing rest : Trace) : Prop where
  /-- The engine answers a step or fails, and then its outcomes are shown. -/
  during_eq : during =
    stepping ++ .stepped (Session.stepEngine S begun).value :: (showing ++ rest)
  /-- Up to then nothing is taken and nothing is written. -/
  stepping_eq : stepping.presentation = []
  /-- Each outcome is taken and written, whatever became of the one before it, and nothing else is;
  in the end there is none. -/
  showing_eq : showing.presentation = begun.console.presents (outcomes S begun) ++
    if (drained S begun).value then [.called .nextOutcome, .popped none] else []
  /-- Only then does the console wait, and it takes no outcome until the next look. -/
  waits : (drained S begun).value = true →
    ∃ (timeout : Duration) (found : Except WaitFailure Readiness) (served : Trace),
      rest = .waited timeout found :: served ∧ served.about .queue = []
  /-- A round whose outcomes never end does nothing more. -/
  unfinished : (drained S begun).value = false → rest = []

variable {S}

theorem presentation_interrupts {interrupts : Trace}
    (h : ∀ event ∈ interrupts, event = .raised .interrupt .interrupted) :
    interrupts.presentation = [] :=
  Trace.presentation_eq_nil (Trace.topics_interrupts h) (by decide) (by decide)

/-- What a drain of a round shows are the outcomes of the round. -/
theorem presentation_drained (begun : Session η ω) :
    (drained S begun).events.presentation = begun.console.presents (outcomes S begun) ++
      if (drained S begun).value then [.called .nextOutcome, .popped none] else [] := by
  rw [drained, presentation_drain, (Session.stepEngine_ends S begun).2]
  rfl

variable {first begun : Session η ω} {before during after : Trace}

/-- A round that is finished shows its outcomes, waits and serves what it has found. -/
theorem Round.shows_finished (h : Round S first before during after begun)
    (hvalue : (drained S begun).value = true) :
    ∃ stepping showing rest, RoundShows S begun during stepping showing rest := by
  obtain ⟨stepping, logs, interrupts, hparted⟩ := h.parted S (by rw [iterate_value_eq, hvalue])
  let attended := Session.attend S (drained S begun).session
  let served := serve S (waited S begun).value (waited S begun).session
  let timeout := timeout (drained S begun).session.input.hasLine
    (allowance (Session.stepEngine S begun).value)
  have hlogs : logs.presentation = [] :=
    @Trace.presentation_eq_nil [.aside] logs (by simpa using hparted.logs_topic) (by decide)
      (by decide)
  have hattended : attended.events.presentation = [] :=
    Trace.presentation_eq_nil (Concerns.attend S _) (by decide) (by decide)
  have hserved : (served.events ++ interrupts).about .queue = [] := by
    rw [Trace.about_append, (Concerns.serve S _).about_eq_nil _ (by decide),
      Trace.about_eq_nil (Trace.topics_interrupts hparted.interrupts_eq) (by decide)]
    rfl
  refine ⟨stepping, logs ++ ((drained S begun).events ++ attended.events),
    .waited timeout (waited S begun).value :: (served.events ++ interrupts), ?_, ?_, ?_, ?_, ?_⟩
  · rw [hparted.during_eq]
    simp only [List.append_assoc]
    rfl
  · exact Trace.presentation_eq_nil hparted.stepping_topics (by decide) (by decide)
  · rw [Trace.presentation_append, Trace.presentation_append, hlogs, hattended,
      presentation_drained, List.append_nil, List.nil_append]
  · exact fun _ => ⟨_, _, _, rfl, hserved⟩
  · simp [hvalue]

/-- A round whose outcomes do not end shows them and does nothing more. -/
theorem Round.shows_unfinished (h : Round S first before during after begun)
    (hvalue : (drained S begun).value = false) :
    ∃ stepping showing rest, RoundShows S begun during stepping showing rest := by
  obtain ⟨interrupts, hduring, hinterrupts⟩ := h.events_eq
  obtain ⟨stepping, logs, hstepped, -, hstepping, hlogs⟩ := stepEngine_events S begun
  have hevents : (iterate S begun).events =
      (stepEngine S begun).events ++ (drained S begun).events := by
    rw [iterate_events]
    dsimp only
    rw [stepEngine_session, if_neg (by simpa [drained] using hvalue), List.append_nil]
    rfl
  have hlogged : logs.presentation = [] :=
    @Trace.presentation_eq_nil [.aside] logs (by simpa using hlogs) (by decide) (by decide)
  refine ⟨stepping, logs ++ ((drained S begun).events ++ interrupts), [], ?_, ?_, ?_, ?_, ?_⟩
  · rw [hduring, hevents, hstepped]
    simp only [List.append_assoc, List.cons_append, List.append_nil]
  · exact Trace.presentation_eq_nil hstepping (by decide) (by decide)
  · rw [Trace.presentation_append, Trace.presentation_append, hlogged,
      presentation_interrupts hinterrupts, presentation_drained, List.append_nil, List.nil_append]
  · simp [hvalue]
  · simp

/-- A round in the course of a run shows its outcomes. -/
theorem Round.shows (h : Round S first before during after begun) :
    ∃ stepping showing rest, RoundShows S begun during stepping showing rest := by
  cases hvalue : (drained S begun).value with
  | true => exact h.shows_finished hvalue
  | false => exact h.shows_unfinished hvalue

end Reactor

/-! ## Engines that keep a queue -/

namespace ScriptedEngine

/-- A script only adds to the queue. -/
theorem queue_isPrefix {actions : List ScriptAction} {state : ScriptedEngine}
    {result : ScriptedEngine × Option LinkFailure} (h : (state.perform actions).Ends result) :
    state.queue <+: result.1.queue := by
  induction actions generalizing state with
  | nil =>
      cases h
      exact List.prefix_rfl
  | cons action rest ih =>
      cases action with
      | queue outcome => exact (List.prefix_append _ _).trans (ih h)
      | insert device => exact @ih (state.change (.insert device)) h
      | remove device => exact @ih (state.change (.remove device)) h
      | touch device lifetime => exact @ih (state.change (.touch device lifetime)) h
      | raise reason =>
          cases h with
          | remark _ hrest => exact ih hrest
      | send connection datagram propagate =>
          cases h with
          | send _ _ answer hresume =>
              cases answer with
              | ok _ => exact ih hresume
              | error failure =>
                  dsimp only at hresume
                  split at hresume
                  · cases hresume
                    exact List.prefix_rfl
                  · exact ih hresume

/-- An engine that follows its script keeps its outcomes in a queue. -/
theorem keepsQueue : engine.KeepsQueue queue where
  value_eq := by
    intro state
    cases hqueue : state.queue <;> simp [engine, nextOutcome, hqueue]
  queue_eq := by
    intro state
    cases hqueue : state.queue <;> simp [engine, nextOutcome, hqueue]
  step := by
    intro state result h
    change state.step.Ends result at h
    rw [step] at h
    split at h
    · cases h
      exact List.prefix_rfl
    · obtain ⟨⟨last, failure⟩, hperform, hanswer⟩ := h.of_bind
      have hadded := queue_isPrefix hperform
      cases failure <;> cases hanswer <;> exact hadded

end ScriptedEngine

/-! ## A run -/

end DeviceConsole
