import DeviceConsole.Proofs.Reactor.Moves
import DeviceConsole.Proofs.Reactor.Rounds

/-!
# The course of a run

A run looks, does a round, looks again and goes on so.  What it leaves between a look that has
found no reason to stop and the next look is what one round leaves, and the session in which
that round begins is known from the number of looks before it.  So whatever holds of one round
in any session holds of a run between any two of its looks.

Main results:

- Theorem {lit}`Reactor.begun_succ`: a round begins where the one before it and a look have led.
- Theorem {lit}`Reactor.run_round`: what a run leaves between two looks is a round.
-/

namespace DeviceConsole

variable {η ω : Type}

/-! ## Looks -/

namespace Trace

/-- How often the loop has looked whether to stop. -/
def looks (trace : Trace) : Nat :=
  (trace.about .look).length

@[simp]
theorem looks_append (left right : Trace) : (left ++ right).looks = left.looks + right.looks := by
  simp [looks]

/-- A trace in which the loop does not look. -/
def IsLookless (trace : Trace) : Prop :=
  ∀ event ∈ trace, event.topic ≠ .look

theorem IsLookless.append {left right : Trace} (hleft : left.IsLookless)
    (hright : right.IsLookless) : (left ++ right).IsLookless := by
  intro event hmem
  rcases List.mem_append.mp hmem with hmem | hmem
  · exact hleft event hmem
  · exact hright event hmem

theorem IsLookless.looks_eq {trace : Trace} (h : trace.IsLookless) : trace.looks = 0 := by
  rw [looks, about, List.filter_eq_nil_iff.mpr (by simpa [IsLookless] using h)]
  rfl

/-- In a part without a look there is none. -/
theorem IsLookless.ne {front before after : Trace} {found : Option Termination}
    (h : front.IsLookless) : front ≠ before ++ .checked found :: after := by
  rintro rfl
  exact h (.checked found) (by simp) rfl

theorem isLookless_interrupts {interrupts : Trace}
    (h : ∀ event ∈ interrupts, event = .raised .interrupt .interrupted) :
    interrupts.IsLookless := by
  intro event hmem
  rw [h event hmem]
  decide

/-- A trace that begins with a look, or is empty. -/
def AtLook (trace : Trace) : Prop :=
  trace = [] ∨ ∃ found rest, trace = .checked found :: rest

/-- The first look of a trace is where the part without one ends. -/
theorem split_atLook {left right tail rest : Trace} (hleft : left.IsLookless)
    (hright : right.IsLookless) (htail : tail.AtLook) (hrest : rest.AtLook)
    (hsplit : left ++ tail = right ++ rest) : left = right ∧ tail = rest := by
  rcases htail with rfl | ⟨found, more, rfl⟩ <;> rcases hrest with rfl | ⟨other, last, rfl⟩
  · exact ⟨by simpa using hsplit, rfl⟩
  · rw [List.append_nil] at hsplit
    exact absurd hsplit hleft.ne
  · rw [List.append_nil] at hsplit
    exact absurd hsplit.symm hright.ne
  · rcases split_append hsplit with ⟨between, hfront, -⟩ | ⟨between, hfront, hback⟩
    · exact absurd hfront hleft.ne
    · cases between with
      | nil => exact ⟨by simpa using hfront.symm, hback⟩
      | cons first between =>
          obtain ⟨rfl, -⟩ := List.cons.inj hback
          exact absurd hfront hright.ne

/-- Behind a part without a look, another look is the first one or follows it. -/
theorem split_look {front back before after : Trace} {found other : Option Termination}
    (hfront : front.IsLookless)
    (hsplit : front ++ .checked found :: back = before ++ .checked other :: after) :
    (before = front ∧ other = found ∧ after = back) ∨
      ∃ more, before = front ++ .checked found :: more ∧
        back = more ++ .checked other :: after := by
  rcases split_append hsplit with ⟨rest, hrest, -⟩ | ⟨between, hbefore, hback⟩
  · exact absurd hrest hfront.ne
  · cases between with
    | nil =>
        obtain ⟨hfound, hafter⟩ := List.cons.inj hback
        exact Or.inl ⟨by simpa using hbefore, (Event.checked.inj hfound).symm, hafter.symm⟩
    | cons first more =>
        obtain ⟨rfl, hmore⟩ := List.cons.inj hback
        exact Or.inr ⟨more, hbefore, hmore⟩

/-- What lies between a look that has found no reason to stop and the next look, or the end. -/
structure IsRound (trace before during after : Trace) : Prop where
  trace_eq : trace = before ++ .checked none :: (during ++ after)
  lookless : during.IsLookless
  atLook : after.AtLook

end Trace

theorem Concerns.isLookless {α : Type} {topics : List Topic} {activity : Activity (Session η ω) α}
    (h : Concerns topics activity) (hlook : .look ∉ topics) (session : Session η ω) :
    (activity session).events.IsLookless :=
  fun _ hmem => h.topic_ne hmem .look hlook

/-! ## Rounds -/

namespace Reactor

variable (S : Setting η ω)

/-- The session in which a loop begins its round that so many others go before. -/
def begun : Nat → Session η ω → Session η ω
  | 0, session => (Session.check S session).session
  | n + 1, session => begun n (iterate S (Session.check S session).session).session

/-- The session in which a run begins the round that so much went before. -/
def beginning (first : Session η ω) (before : Trace) : Session η ω :=
  begun S before.looks (Session.writeConsole S prompt first).session

/-- A round in the course of a run: the session in which it begins, and what it leaves up to the
next look. -/
structure Round (first : Session η ω) (before during after : Trace) (begun : Session η ω) :
    Prop where
  /-- The events before the round have led to where it begins. -/
  reached : Chain Step first (before ++ [.checked none]) begun
  /-- Nobody has asked the console to stop. -/
  running : begun.token = none
  /-- What is left are the events of the round, and interrupts in front of the look. -/
  events_eq : ∃ interrupts : Trace, during = (iterate S begun).events ++ interrupts ∧
    ∀ event ∈ interrupts, event = .raised .interrupt .interrupted
  /-- A round that is followed by a look was finished. -/
  finished : after ≠ [] → (iterate S begun).value = true

variable {S} in
/-- What comes before a round is behind what came before that. -/
theorem Round.prepend {first second begun : Session η ω} {front before during after : Trace}
    (h : Round S second before during after begun) (hfront : Chain Step first front second) :
    Round S first (front ++ before) during after begun where
  reached := by
    rw [List.append_assoc]
    exact hfront.trans h.reached
  running := h.running
  events_eq := h.events_eq
  finished := h.finished

/-- The first round is what follows the first look. -/
theorem round_begin (rounds : Nat) (session : Session η ω) {back during after : Trace}
    (hrunning : (Session.attend S session).session.token = none)
    (hback : let ran := iterate S (Session.check S session).session
      (if ran.value then (loop S rounds ran.session).value else none) = none → back = [])
    (hrest : let ran := iterate S (Session.check S session).session
      (ran.events ++ if ran.value then (loop S rounds ran.session).events else []) ++ back =
        during ++ after)
    (hduring : during.IsLookless) (hafter : after.AtLook) :
    Round S session (Session.attend S session).events during after (begun S 0 session) := by
  have hlookless := (Concerns.iterate S).isLookless (by decide) (Session.check S session).session
  have hreached := Travels.check S session
  rw [Session.check_events, hrunning] at hreached
  dsimp only at hback hrest
  cases hvalue : (iterate S (Session.check S session).session).value with
  | false =>
      rw [hvalue, if_neg (by simp)] at hback hrest
      rw [hback rfl, List.append_nil] at hrest
      obtain ⟨rfl, rfl⟩ := Trace.split_atLook hlookless hduring (Or.inl rfl) hafter hrest
      exact ⟨hreached, hrunning, ⟨[], by simp [begun], by simp⟩, by simp⟩
  | true =>
      rw [hvalue, if_pos rfl] at hback hrest
      obtain ⟨interrupts, tail, hnext, hinterrupts, htail⟩ := loop_meetsLook S rounds _ hback
      rw [List.append_assoc, hnext, ← List.append_assoc] at hrest
      obtain ⟨rfl, rfl⟩ := Trace.split_atLook
        (hlookless.append (Trace.isLookless_interrupts hinterrupts)) hduring htail hafter hrest
      exact ⟨hreached, hrunning, ⟨interrupts, rfl, hinterrupts⟩, fun _ => hvalue⟩

/-- A round of the rest of a loop is one of the loop, with one more look in front of it. -/
theorem round_later {session : Session η ω} {front during after : Trace}
    (hrunning : (Session.attend S session).session.token = none)
    (h : let next := (iterate S (Session.check S session).session).session
      Round S next front during after (begun S front.looks next)) :
    let before := (Session.attend S session).events ++ .checked none ::
      ((iterate S (Session.check S session).session).events ++ front)
    Round S session before during after (begun S before.looks session) := by
  have hattend := (Concerns.attend S).isLookless (by decide) session
  have hround := (Concerns.iterate S).isLookless (by decide) (Session.check S session).session
  have hfront := (Travels.check S session).trans
    (Travels.iterate S (Session.check S session).session)
  rw [Session.check_events, hrunning] at hfront
  have hcount : Trace.looks ((Session.attend S session).events ++ .checked none ::
      ((iterate S (Session.check S session).session).events ++ front)) = front.looks + 1 := by
    have hone : Trace.looks [.checked none] = 1 := rfl
    rw [← List.singleton_append, Trace.looks_append, Trace.looks_append, Trace.looks_append,
      hattend.looks_eq, hround.looks_eq, hone]
    omega
  dsimp only
  rw [hcount, begun]
  simpa using h.prepend hfront

/-- What a loop leaves between two looks is a round. -/
theorem loop_round (rounds : Nat) (session : Session η ω) {back before during after : Trace}
    (hback : (loop S rounds session).value = none → back = []) (hlooks : back.IsLookless)
    (hround : ((loop S rounds session).events ++ back).IsRound before during after) :
    Round S session before during after (begun S before.looks session) := by
  induction rounds generalizing session before with
  | zero =>
      have htrace := hround.trace_eq
      rw [hback rfl] at htrace
      simp [loop] at htrace
  | succ rounds ih =>
      have hattend := (Concerns.attend S).isLookless (by decide) session
      have hsplit := hround.trace_eq
      rw [loop_succ_events, List.append_assoc, List.cons_append] at hsplit
      rw [loop_succ_value] at hback
      -- The round follows the first look, or lies in the rest of the loop.
      rcases Trace.split_look hattend hsplit with ⟨rfl, hfound, hrest⟩ | ⟨more, rfl, hrest⟩
      · rw [← hfound] at hback hrest
        rw [hattend.looks_eq]
        exact round_begin S rounds session hfound.symm hback hrest.symm hround.lookless
          hround.atLook
      · cases hrunning : (Session.attend S session).session.token with
        | some reason =>
            rw [hrunning] at hrest
            exact absurd hrest hlooks.ne
        | none =>
            have hfirst :=
              (Concerns.iterate S).isLookless (by decide) (Session.check S session).session
            rw [hrunning] at hback hrest
            dsimp only at hback hrest
            rw [List.append_assoc] at hrest
            rcases Trace.split_append hrest with ⟨rest, hmem, -⟩ | ⟨front, rfl, hlater⟩
            · exact absurd hmem hfirst.ne
            · apply round_later S hrunning
              cases hvalue : (iterate S (Session.check S session).session).value with
              | false =>
                  rw [hvalue, if_neg (by simp)] at hback hlater
                  simp [hback rfl] at hlater
              | true =>
                  rw [hvalue, if_pos rfl] at hback hlater
                  exact ih _ hback ⟨hlater, hround.lookless, hround.atLook⟩

/-- What a run leaves between two looks is a round. -/
theorem run_round (rounds : Nat) (session : Session η ω) {before during after : Trace}
    (hround : (run S rounds session).events.IsRound before during after) :
    Round S session before during after (beginning S session before) := by
  have hprompt := (Concerns.writeConsole S prompt).isLookless (by decide) session
  have hsplit := hround.trace_eq
  rw [run_events] at hsplit
  dsimp only at hsplit
  rcases Trace.split_append hsplit with ⟨rest, hmem, -⟩ | ⟨front, rfl, hloop⟩
  · exact absurd hmem hprompt.ne
  · have hlooped := loop_round S rounds (Session.writeConsole S prompt session).session
      (fun hvalue => by rw [hvalue, afterLoop_none_events])
      ((concerns_afterLoop S _).isLookless (by decide) _)
      ⟨hloop, hround.lookless, hround.atLook⟩
    rw [beginning, Trace.looks_append, hprompt.looks_eq, Nat.zero_add]
    exact hlooped.prepend ((Travels.writeConsole S prompt).steps session)

/-! ## The parts of a round -/

/-- How long the engine allows the console to wait, by its answer to a step. -/
def allowance : Except StepFailure Duration → Duration
  | .ok duration => duration
  | .error _ => waitCeiling

/-- Takes an answer to a step: a failure is told to the log. -/
def settle : Except StepFailure Duration → Activity (Session η ω) Duration
  | .ok duration => pure duration
  | .error failure => do
      Session.log S (.stepFailed failure)
      return waitCeiling

theorem stepEngine_eq : stepEngine S = Session.stepEngine S >>= settle S := by
  unfold stepEngine
  congr 1

theorem concerns_settle (answer : Except StepFailure Duration) :
    Concerns [.aside] (settle S answer) := by
  cases answer with
  | ok duration => exact Concerns.pure _
  | error failure => exact Concerns.bind (Concerns.log S _) fun _ => Concerns.pure _

theorem stepEngine_value (session : Session η ω) :
    (stepEngine S session).value = allowance (Session.stepEngine S session).value := by
  rw [stepEngine_eq, Activity.bind_value]
  cases (Session.stepEngine S session).value <;> rfl

theorem stepEngine_session (session : Session η ω) :
    (stepEngine S session).session = (Session.stepEngine S session).session := by
  rw [stepEngine_eq, Activity.bind_session]
  cases (Session.stepEngine S session).value with
  | ok duration => rfl
  | error failure => exact Session.log_session S _ _

/-- What a round leaves up to the answer of the engine: it is asked to step, and may speak. -/
theorem stepEngine_events (session : Session η ω) :
    ∃ stepping logs : Trace, (stepEngine S session).events =
        stepping ++ .stepped (Session.stepEngine S session).value :: logs ∧
      stepping.about .step = [.called .step] ∧
      (∀ event ∈ stepping, event.topic ∈ [.aside, .link, .step]) ∧
      ∀ event ∈ logs, event.topic = .aside := by
  let noted := Session.note S (.called .step) session
  let spoken := Session.converse S (S.engine.step noted.session.engine) noted.session
  let answered := Session.stepEngine S session
  have hevents : answered.events =
      noted.events ++ (spoken.events ++ [.stepped answered.value]) := rfl
  refine ⟨noted.events ++ spoken.events, (settle S answered.value answered.session).events,
    ?_, ?_, ?_, ?_⟩
  · rw [stepEngine_eq, Activity.bind_events,
      show (Session.stepEngine S session).events = _ from hevents]
    simp [answered]
  · have hnoted : noted.events.about .step = [.called .step] := by
      simp only [noted, Session.note_events]
      split <;> rfl
    rw [Trace.about_append, hnoted, (Concerns.converse S _).about_eq_nil _ (by decide)]
    rfl
  · intro event hmem
    rcases List.mem_append.mp hmem with hmem | hmem
    · exact (Concerns.note S).mono (by decide) session event hmem
    · exact (Concerns.converse S _).mono (by decide) noted.session event hmem
  · intro event hmem
    simpa using concerns_settle S _ _ event hmem

/-- What is left when the outcomes of a round are shown. -/
def drained (session : Session η ω) : Ran (Session η ω) Bool :=
  drain S S.patience (Session.stepEngine S session).session

/-- What is left when a round has waited. -/
def waited (session : Session η ω) : Ran (Session η ω) (Except WaitFailure Readiness) :=
  Session.wait S (timeout (drained S session).session.input.hasLine
    (allowance (Session.stepEngine S session).value)) (drained S session).session

theorem iterate_value_eq (session : Session η ω) :
    (iterate S session).value = (drained S session).value := by
  rw [iterate_value, stepEngine_session, drained]

/-- The events of a finished round, part by part. -/
theorem iterate_events_eq {session : Session η ω} (hfinished : (iterate S session).value = true) :
    (iterate S session).events = (stepEngine S session).events ++ ((drained S session).events ++
      ((waited S session).events ++
        (serve S (waited S session).value (waited S session).session).events)) := by
  rw [iterate_value_eq, drained] at hfinished
  rw [iterate_events]
  dsimp only
  rw [stepEngine_session, stepEngine_value, if_pos hfinished]
  rfl

/-- A finished round leaves the session as what it serves has left it. -/
theorem iterate_session_eq {session : Session η ω} (hfinished : (iterate S session).value = true) :
    (iterate S session).session =
      (serve S (waited S session).value (waited S session).session).session := by
  rw [iterate_value_eq, drained] at hfinished
  rw [iterate, Activity.bind_session, Activity.bind_session, stepEngine_session, stepEngine_value,
    hfinished]
  rfl

theorem popOutcome_events (session : Session η ω) :
    ∃ front : Trace, (Session.popOutcome S session).events =
      front ++ [.popped (Session.popOutcome S session).value] := by
  let noted := Session.note S (.called .nextOutcome) session
  let answer := S.engine.nextOutcome noted.session.engine
  have hevents : (Session.popOutcome S session).events = noted.events ++
      ((Session.heedAll S answer.remarks noted.session).events ++
        [.popped (Session.popOutcome S session).value]) := rfl
  exact ⟨_, by rw [hevents, List.append_assoc]⟩

/-- A drain that is finished ends when the engine has no more outcomes. -/
theorem drain_events (patience : Nat) (session : Session η ω)
    (hfinished : (drain S patience session).value = true) :
    ∃ shown : Trace, (drain S patience session).events = shown ++ [.popped none] := by
  induction patience generalizing session with
  | zero => simp [drain] at hfinished
  | succ patience ih =>
      obtain ⟨front, hpop⟩ := popOutcome_events S session
      rw [drain, Activity.bind_value] at hfinished
      rw [drain, Activity.bind_events]
      cases hvalue : (Session.popOutcome S session).value with
      | none => exact ⟨front, by simp [hpop, hvalue]⟩
      | some outcome =>
          simp only [hvalue, Activity.bind_value] at hfinished
          obtain ⟨shown, hshown⟩ := ih _ hfinished
          let delivered := deliver S outcome (Session.popOutcome S session).session
          let logged := Session.logFailure S .outcomeNotPrinted delivered.value delivered.session
          refine ⟨(Session.popOutcome S session).events ++
            (delivered.events ++ (logged.events ++ shown)), ?_⟩
          simp only [Activity.bind_events, hshown, List.append_assoc]
          rfl

/-- The events of a round in the course of a run, part by part.  Besides what its parts leave, there
are what the engine does during its step, what is told to the log when the step has failed, and
interrupts. -/
structure Round.Parted (begun : Session η ω) (during stepping logs interrupts : Trace) : Prop where
  during_eq : during = stepping ++ .stepped (Session.stepEngine S begun).value ::
    (logs ++ ((drained S begun).events ++ ((Session.attend S (drained S begun).session).events ++
      .waited (timeout (drained S begun).session.input.hasLine
          (allowance (Session.stepEngine S begun).value)) (waited S begun).value ::
        ((serve S (waited S begun).value (waited S begun).session).events ++ interrupts))))
  step_once : stepping.about .step = [.called .step]
  stepping_topics : ∀ event ∈ stepping, event.topic ∈ [.aside, .link, .step]
  logs_topic : ∀ event ∈ logs, event.topic = .aside
  interrupts_eq : ∀ event ∈ interrupts, event = .raised .interrupt .interrupted

theorem Round.parted {first begun : Session η ω} {before during after : Trace}
    (h : Round S first before during after begun) (hfinished : (iterate S begun).value = true) :
    ∃ stepping logs interrupts, Round.Parted S begun during stepping logs interrupts := by
  have hwaited : (waited S begun).events = (Session.attend S (drained S begun).session).events ++
      [.waited (timeout (drained S begun).session.input.hasLine
        (allowance (Session.stepEngine S begun).value)) (waited S begun).value] := rfl
  obtain ⟨interrupts, hduring, hinterrupts⟩ := h.events_eq
  obtain ⟨stepping, logs, hstepped, hstep, hstepping, hlogs⟩ := stepEngine_events S begun
  refine ⟨stepping, logs, interrupts, ?_, hstep, hstepping, hlogs, hinterrupts⟩
  rw [hduring, iterate_events_eq S hfinished, hstepped, hwaited]
  simp only [List.append_assoc, List.cons_append, List.nil_append]

end Reactor

end DeviceConsole
