import DeviceConsole.Engine.Offline
import DeviceConsole.Proofs.Line.Reads
import DeviceConsole.Proofs.Reactor.Discipline
import DeviceConsole.Proofs.Reactor.Outcomes
import DeviceConsole.Proofs.Reactor.Patience
import DeviceConsole.Script.Host
import Mathlib

/-!
# Why a run halts

Each round in which the wait finds the operator's stream ready reads it once or takes a line, or
else the input is used up and the console is asked to stop.  A stream that comes to its end gives
finitely many reads, which make finitely many lines.  So from the moment on from which every wait
finds the stream ready, only so many rounds are left.

Main results:

- Theorem {lit}`Reactor.serveInput_progresses`: serving a ready stream uses something up or stops.
- Theorem {lit}`Reactor.readied_run`: how often the stream is ready, against reads and lines.
- Theorem {lit}`Chain.readsToEnd`: the stream is not read again when it has ended.
- Theorem {lit}`Engine.KeepsQueue.drains`: drains of an engine with a queue come to an end.
- Theorem {lit}`run_halts`: a run on a stream that ends halts.
-/

namespace DeviceConsole

variable {η ω α : Type}

/-! ## Waits and reads -/

/-- Whether a wait has found the operator's stream ready. -/
def findsInput : Except WaitFailure Readiness → Bool
  | .ok .input => true
  | _ => false

namespace Trace

/-- What the waits have found. -/
def waits (trace : Trace) : List (Except WaitFailure Readiness) :=
  trace.filterMap fun
    | .waited _ found => some found
    | _ => none

/-- How often a wait has found the operator's stream ready. -/
def readied (trace : Trace) : Nat :=
  trace.waits.countP findsInput

/-- Behind every step there is a wait, so no drain was cut short. -/
def DrainsEnd (trace : Trace) : Prop :=
  trace.steps.length = trace.waits.length

/-- How much of the operator's stream was used up: the reads, and the lines that were taken. -/
def progress (trace : Trace) : Nat :=
  trace.reads.length + trace.lines.length

@[simp]
theorem waits_append (left right : Trace) : (left ++ right).waits = left.waits ++ right.waits := by
  simp [waits]

@[simp]
theorem readied_append (left right : Trace) :
    (left ++ right).readied = left.readied + right.readied := by
  simp [readied]

@[simp]
theorem progress_append (left right : Trace) :
    (left ++ right).progress = left.progress + right.progress := by
  simp only [progress, reads_append, lines_append, List.length_append]
  omega

theorem waits_about (trace : Trace) : (trace.about .wait).waits = trace.waits := by
  refine filterMap_about (fun event htopic => ?_) trace
  split
  · exact absurd rfl htopic
  · rfl

theorem reads_about (trace : Trace) : (trace.about .stream).reads = trace.reads := by
  refine filterMap_about (fun event htopic => ?_) trace
  split
  · exact absurd rfl htopic
  · rfl

/-- A view that sees each event about one topic sees as much as there is about it. -/
theorem length_filterMap {topic : Topic} {β : Type} {view : Event → Option β}
    (hview : ∀ event, (view event).isSome ↔ event.topic = topic) (trace : Trace) :
    (trace.filterMap view).length = (trace.about topic).length := by
  rw [List.length_filterMap_eq_countP, about, ← List.countP_eq_length_filter]
  refine List.countP_congr fun event _ => ?_
  rw [hview, decide_eq_true_eq]

theorem length_waits (trace : Trace) : trace.waits.length = (trace.about .wait).length := by
  refine length_filterMap (fun event => ⟨fun hsome => ?_, fun htopic => ?_⟩) trace
  · split at hsome
    · rfl
    · simp at hsome
  · unfold Event.topic at htopic
    split at htopic <;> first | rfl | simp at htopic

theorem length_reads (trace : Trace) : trace.reads.length = (trace.about .stream).length := by
  refine length_filterMap (fun event => ⟨fun hsome => ?_, fun htopic => ?_⟩) trace
  · split at hsome
    · rfl
    · simp at hsome
  · unfold Event.topic at htopic
    split at htopic <;> first | rfl | simp at htopic

theorem bytesRead_eq (trace : Trace) : trace.bytesRead = trace.reads.flatMap readBytes := by
  induction trace with
  | nil => rfl
  | cons event trace ih =>
      rw [← List.singleton_append, bytesRead_append, reads_append, List.flatMap_append, ih]
      cases event <;> rfl

theorem inputEnded_eq (trace : Trace) : trace.inputEnded = trace.reads.any endsStream := by
  induction trace with
  | nil => rfl
  | cons event trace ih =>
      rw [← List.singleton_append, inputEnded_append, reads_append, List.any_append, ih]
      cases event <;> rfl

end Trace

theorem Concerns.waits_eq_nil {topics : List Topic} {activity : Activity (Session η ω) α}
    (h : Concerns topics activity) (session : Session η ω) (hwait : .wait ∉ topics) :
    (activity session).events.waits = [] := by
  rw [← Trace.waits_about, h.about_eq_nil session hwait]
  rfl

theorem Concerns.readied_eq_zero {topics : List Topic} {activity : Activity (Session η ω) α}
    (h : Concerns topics activity) (session : Session η ω) (hwait : .wait ∉ topics) :
    (activity session).events.readied = 0 := by
  rw [Trace.readied, h.waits_eq_nil session hwait]
  rfl

/-! ## What a ready stream gives -/

namespace Reactor

variable (S : Setting η ω)

/-- An input that is used up asks the console to stop. -/
theorem endInput_token {session : Session η ω} (hexhausted : session.input.isExhausted) :
    (endInput S session).session.token.isSome := by
  unfold endInput
  rw [Activity.get_bind_run, if_pos hexhausted, Activity.bind_session, Session.log_session]
  rfl

/-- Serving the operator when nothing waits and the stream has ended asks the console to stop. -/
theorem serveNextLine_token {session : Session η ω} (hexhausted : session.input.isExhausted) :
    (serveNextLine S session).session.token.isSome := by
  have hlines : session.input.lines = [] := by
    simp only [LineAssembler.isExhausted, Bool.and_eq_true, List.isEmpty_iff] at hexhausted
    exact hexhausted.2
  have hnone : Session.takeLine session = ⟨none, [], session⟩ := by
    simp [Session.takeLine, Activity.bind_run, LineAssembler.takeLine, hlines]
  rw [serveNextLine, Activity.bind_session, hnone]
  exact endInput_token S hexhausted

/-- Serving a ready stream reads it, takes a line, or asks the console to stop. -/
theorem serveInput_progresses (session : Session η ω) :
    1 ≤ (serveInput S true session).events.progress ∨
      (serveInput S true session).session.token.isSome := by
  -- An open stream is read.  When it has ended, a line is taken; and when there is none, the
  -- input is used up.
  rw [Trace.progress, Trace.length_reads, length_about_serveInput]
  cases hclosed : session.input.closed with
  | false => simp
  | true =>
      have hfill : fillWhen S true session = ⟨(), [], session⟩ := by
        simp [fillWhen, Session.fillInput, hclosed, Session.logFailure, Activity.bind_run]
      rw [serveInput_eq, Activity.bind_session, Activity.bind_events, hfill, List.nil_append,
        lines_serveNextLine]
      cases hlines : session.input.lines with
      | nil =>
          right
          exact serveNextLine_token S (by simp [LineAssembler.isExhausted, hclosed, hlines])
      | cons line rest => simp

/-- A finished round waits once. -/
theorem waits_iterate {session : Session η ω} (hfinished : (iterate S session).value = true) :
    (iterate S session).events.waits = [(waited S session).value] := by
  have hdrained : (drained S session).events.waits = [] :=
    (Concerns.drain S _).waits_eq_nil _ (by decide)
  have hwaited : (waited S session).events.waits = [(waited S session).value] := by
    have hattended := (Concerns.attend S).waits_eq_nil (drained S session).session (by decide)
    rw [waited, Session.wait, Activity.bind_events, Trace.waits_append, hattended]
    rfl
  rw [iterate_events_eq S hfinished, Trace.waits_append, Trace.waits_append, Trace.waits_append,
    (Concerns.stepEngineOnce S).waits_eq_nil _ (by decide), hdrained, hwaited,
    (Concerns.serve S _).waits_eq_nil _ (by decide)]
  rfl

/-- A round in which the stream is ready uses something of it up, or asks the console to stop. -/
theorem iterate_progresses (session : Session η ω) :
    (iterate S session).events.readied ≤ (iterate S session).events.progress ∨
      (iterate S session).session.token.isSome := by
  cases hfinished : (iterate S session).value with
  | false =>
      left
      have hwaits : (iterate S session).events.waits = [] := by
        rw [← List.length_eq_zero_iff, Trace.length_waits, length_waits_iterate, hfinished]
        rfl
      simp [Trace.readied, hwaits]
  | true =>
      rw [Trace.readied, waits_iterate S hfinished, iterate_session_eq S hfinished,
        iterate_events_eq S hfinished]
      cases hready : findsInput (waited S session).value with
      | false => simp [hready]
      | true =>
          have hfound : (waited S session).value = .ok .input := by
            unfold findsInput at hready
            split at hready
            · assumption
            · simp at hready
          rw [hfound, serve]
          rcases serveInput_progresses S (waited S session).session with hmore | hraised
          · left
            simp only [Trace.progress_append, List.countP_singleton, findsInput, if_true]
            omega
          · exact Or.inr hraised

/-! ## What a run uses up -/

/-- A loop that was asked to stop waits for nothing. -/
theorem readied_loop_of_token (rounds : Nat) {session : Session η ω}
    (htoken : session.token.isSome) : (loop S rounds session).events.readied = 0 := by
  have hwaits : (loop S rounds session).events.waits = [] := by
    rw [← Trace.waits_about, Trace.about_eq_nil (topics_loop S rounds session htoken) (by decide)]
    rfl
  rw [Trace.readied, hwaits]
  rfl

theorem readied_iterate_le (session : Session η ω) : (iterate S session).events.readied ≤ 1 := by
  calc (iterate S session).events.readied
      ≤ (iterate S session).events.waits.length := List.countP_le_length
    _ ≤ 1 := by
        rw [Trace.length_waits, length_waits_iterate]
        split <;> decide

/-- Each time that a loop finds the stream ready it uses something of it up, but for the last
time. -/
theorem readied_loop (rounds : Nat) (session : Session η ω) :
    (loop S rounds session).events.readied ≤ (loop S rounds session).events.progress + 1 := by
  induction rounds generalizing session with
  | zero => exact Nat.zero_le _
  | succ rounds ih =>
      have hchecked : (Session.check S session).events.readied = 0 :=
        (Concerns.check S).readied_eq_zero session (by decide)
      cases hlook : (Session.check S session).value with
      | some reason =>
          rw [loop_events_of_stopping S rounds hlook, hchecked]
          exact Nat.zero_le _
      | none =>
          have honce := readied_iterate_le S (Session.check S session).session
          have hround := iterate_progresses S (Session.check S session).session
          rw [loop_events_of_running S rounds hlook]
          generalize iterate S (Session.check S session).session = ran at honce hround ⊢
          dsimp only
          rw [Trace.readied_append, Trace.readied_append, Trace.progress_append,
            Trace.progress_append, hchecked]
          cases ran.value with
          | false =>
              have hnone : Trace.readied [] = 0 := rfl
              rw [if_neg (by simp), hnone]
              omega
          | true =>
              rw [if_pos rfl]
              -- Either the round uses something up, or it is the last one that waits.
              rcases hround with hmore | hraised
              · have hrest := ih ran.session
                omega
              · have hrest := readied_loop_of_token S rounds hraised
                omega

/-- What is neither about the screen, the link nor the shutdown happens in the loop of a run. -/
theorem about_run (rounds : Nat) (session : Session η ω) {topic : Topic}
    (htopic : topic ∉ [.aside, .screen, .link, .closing]) :
    (run S rounds session).events.about topic =
      (loop S rounds (Session.writeConsole S prompt session).session).events.about topic := by
  have hprompted : (Session.writeConsole S prompt session).events.about topic = [] :=
    (Concerns.writeConsole S prompt).about_eq_nil session (by simp_all)
  rw [run_events]
  dsimp only
  rw [Trace.about_append, Trace.about_append, hprompted, List.nil_append,
    (concerns_afterLoop S _).about_eq_nil _ (by simp_all), List.append_nil]

theorem steps_run (rounds : Nat) (session : Session η ω) : (run S rounds session).events.steps =
    (loop S rounds (Session.writeConsole S prompt session).session).events.steps := by
  rw [← Trace.steps_about, about_run S rounds session (by decide), Trace.steps_about]

theorem waits_run (rounds : Nat) (session : Session η ω) : (run S rounds session).events.waits =
    (loop S rounds (Session.writeConsole S prompt session).session).events.waits := by
  rw [← Trace.waits_about, about_run S rounds session (by decide), Trace.waits_about]

/-- Each time that a run finds the stream ready it uses something of it up, but for the last
time. -/
theorem readied_run (rounds : Nat) (session : Session η ω) :
    (run S rounds session).events.readied ≤ (run S rounds session).events.progress + 1 := by
  have hlooped := readied_loop S rounds (Session.writeConsole S prompt session).session
  rw [Trace.readied, waits_run, Trace.progress, ← Trace.reads_about, ← Trace.lines_about,
    about_run S rounds session (by decide), about_run S rounds session (by decide),
    Trace.reads_about, Trace.lines_about]
  exact hlooped

/-- A loop whose drains have all ended, and that goes on, has done all its rounds. -/
theorem length_waits_loop (rounds : Nat) (session : Session η ω)
    (hvalue : (loop S rounds session).value = none)
    (hended : (loop S rounds session).events.DrainsEnd) :
    (loop S rounds session).events.waits.length = rounds := by
  induction rounds generalizing session with
  | zero => rfl
  | succ rounds ih =>
      have hcheck := Concerns.check S
      rw [loop, Activity.bind_value] at hvalue
      cases hlook : (Session.check S session).value with
      | some reason => simp [hlook] at hvalue
      | none =>
          have hsteps := length_steps_iterate S (Session.check S session).session
          have hwaits := length_waits_iterate S (Session.check S session).session
          rw [← Trace.length_waits] at hwaits
          rw [hlook] at hvalue
          dsimp only at hvalue
          rw [Activity.bind_value] at hvalue
          rw [loop_events_of_running S rounds hlook] at hended ⊢
          generalize iterate S (Session.check S session).session = ran
            at hvalue hended hsteps hwaits ⊢
          dsimp only at hended ⊢
          rw [Trace.DrainsEnd, Trace.steps_append, Trace.waits_append, Trace.steps_append,
            Trace.waits_append, hcheck.steps_eq_nil session (by decide),
            hcheck.waits_eq_nil session (by decide)] at hended
          rw [Trace.waits_append, Trace.waits_append, hcheck.waits_eq_nil session (by decide)]
          cases hran : ran.value with
          | false =>
              -- The step of this round has no wait behind it.
              have hnosteps : Trace.steps [] = [] := rfl
              have hnowaits : Trace.waits [] = [] := rfl
              simp [hran, hnosteps, hnowaits, hsteps, hwaits] at hended
          | true =>
              rw [hran, if_pos rfl] at hvalue hended hwaits
              have hrest : (loop S rounds ran.session).events.DrainsEnd := by
                simp only [List.nil_append, List.length_append] at hended
                rw [Trace.DrainsEnd]
                omega
              rw [if_pos rfl, List.nil_append, List.length_append, ih ran.session hvalue hrest,
                hwaits]
              omega

/-- A run whose drains have all ended, and that goes on, has done all its rounds. -/
theorem length_waits_run (rounds : Nat) (session : Session η ω)
    (hvalue : (run S rounds session).value = none)
    (hended : (run S rounds session).events.DrainsEnd) :
    (run S rounds session).events.waits.length = rounds := by
  rw [run_value] at hvalue
  rw [Trace.DrainsEnd, steps_run, waits_run] at hended
  rw [waits_run]
  exact length_waits_loop S rounds _ hvalue hended

end Reactor

/-! ## A stream that has ended -/

/-- A step reads the stream once, while it is open, or does not read it. -/
theorem Step.reads {session next : Session η ω} {events : Trace}
    (hstep : Step session events next) :
    events.reads = [] ∨ ∃ answer, events.reads = [answer] ∧ session.input.closed = false := by
  cases hstep with
  | move hmove =>
      cases hmove with
      | read answer hopen => exact Or.inr ⟨answer, rfl, hopen⟩
      | @tell event hplain =>
          left
          cases event <;> first | rfl | simp [Event.isPlain] at hplain
      | resolve peer =>
          left
          split <;> rfl
      | _ => exact Or.inl rfl
  | _ => exact Or.inl rfl

/-- The stream is read until it has ended, and no further. -/
structure ReadSoFar (past : Trace) (session : Session η ω) : Prop where
  serviced : Serviced past session
  /-- Every read but the last one has left the stream open. -/
  goes_on : ∀ answer ∈ past.reads.dropLast, endsStream answer = false

theorem ReadSoFar.step {past events : Trace} {session next : Session η ω}
    (h : ReadSoFar past session) (hstep : Step session events next) :
    ReadSoFar (past ++ events) next := by
  refine ⟨h.serviced.step hstep, ?_⟩
  rw [Trace.reads_append]
  rcases hstep.reads with hnone | ⟨answer, hone, hopen⟩
  · rw [hnone, List.append_nil]
    exact h.goes_on
  · rw [hone, List.dropLast_concat]
    have hended := h.serviced.closed_eq
    rw [hopen, Trace.inputEnded_eq] at hended
    simpa using hended.symm

/-- The operator's stream is not read again when a read was its end. -/
def Trace.ReadsToEnd (trace : Trace) : Prop :=
  ∀ (before after : Trace) (answer : Except IoFailure (List UInt8)),
    trace = before ++ .read answer :: after → endsStream answer = true → after.reads = []

/-- Every read but the last one has left the stream open. -/
theorem Chain.reads_dropLast {first last : Session η ω} {events : Trace}
    (chain : Chain Step first events last) (hinput : first.input = .empty) :
    ∀ answer ∈ events.reads.dropLast, endsStream answer = false := by
  have hread := @Chain.keeps _ _ _ _ _ _ ReadSoFar (fun h hstep => h.step hstep) chain []
    ⟨Serviced.start hinput, by simp [Trace.reads]⟩
  exact hread.goes_on

/-- The stream is not read again when it has ended. -/
theorem Chain.readsToEnd {first last : Session η ω} {events : Trace}
    (chain : Chain Step first events last) (hinput : first.input = .empty) :
    events.ReadsToEnd := by
  intro before after answer hsplit hends
  by_contra hmore
  have hmem : answer ∈ events.reads.dropLast := by
    have hreads : events.reads = before.reads ++ answer :: after.reads := by
      rw [hsplit, Trace.reads_append]
      rfl
    rw [hreads, List.dropLast_append_cons, List.dropLast_cons_of_ne_nil hmore]
    simp
  simpa [hends] using chain.reads_dropLast hinput answer hmem

/-! ## Drains that come to an end -/

section

variable {S : Setting η ω} {queue : η → List Outcome}

/-- The drains of a loop end when each may take as many outcomes as the engine has queued. -/
theorem Engine.KeepsQueue.drains_loop (h : S.engine.KeepsQueue queue) (rounds : Nat)
    (session : Session η ω) : ∃ patience, ∀ more, patience ≤ more →
      (Reactor.loop (S.patient more) rounds session).events.DrainsEnd := by
  induction rounds generalizing session with
  | zero => exact ⟨0, fun _ _ => rfl⟩
  | succ rounds ih =>
      -- The first round needs as much patience as there are outcomes behind its step.  With more
      -- of it the round is the same, and so is the session in which the rest begins.
      let checked := Session.check S session
      let stepped := Session.stepEngine S checked.session
      let needed := (queue stepped.session.engine).length + 1
      let ran := Reactor.iterate (S.patient needed) checked.session
      have hfinished : ran.value = true := by
        have hdrained : (Reactor.drain S needed stepped.session).value = true :=
          (Reactor.drain_queue S h needed stepped.session).1.mpr (Nat.lt_succ_self _)
        rw [Reactor.iterate_value_eq, Reactor.drained, Session.stepEngine_patient,
          Reactor.drain_patient]
        exact hdrained
      have hsteps : ran.events.steps.length = 1 := Reactor.length_steps_iterate _ _
      have hwaits : ran.events.waits.length = 1 := by
        rw [Reactor.waits_iterate _ hfinished]
        rfl
      obtain ⟨patience, hrest⟩ := ih ran.session
      refine ⟨max needed patience, ?_⟩
      intro more hmore
      have hneeded : needed ≤ more := by omega
      have hsame : Reactor.iterate (S.patient more) checked.session = ran :=
        Reactor.iterate_longer (S.patient needed) hneeded hfinished
      have hran : (Reactor.loop (S.patient more) rounds ran.session).events.DrainsEnd :=
        hrest more (by omega)
      have hchecked : Session.check (S.patient more) session = checked := rfl
      have hsteps_nil : checked.events.steps = [] :=
        (Concerns.check S).steps_eq_nil session (by decide)
      have hwaits_nil : checked.events.waits = [] :=
        (Concerns.check S).waits_eq_nil session (by decide)
      cases hlook : checked.value with
      | some reason =>
          rw [Reactor.loop_events_of_stopping (S.patient more) rounds hlook, hchecked,
            Trace.DrainsEnd, hsteps_nil, hwaits_nil]
          rfl
      | none =>
          rw [Reactor.loop_events_of_running (S.patient more) rounds hlook, hchecked, hsame]
          rw [Trace.DrainsEnd] at hran ⊢
          simp only [hfinished, if_true, Trace.steps_append, Trace.waits_append, hsteps_nil,
            hwaits_nil, List.nil_append, List.length_append, hsteps, hwaits, hran]

/-- The drains of a run come to an end when the engine keeps a queue. -/
theorem Engine.KeepsQueue.drains (h : S.engine.KeepsQueue queue) (session : Session η ω)
    (rounds : Nat) : ∃ patience,
      (Reactor.run (S.patient patience) rounds session).events.DrainsEnd := by
  obtain ⟨patience, hloop⟩ :=
    h.drains_loop rounds (Session.writeConsole S prompt session).session
  refine ⟨patience, ?_⟩
  rw [Trace.DrainsEnd, Reactor.steps_run, Reactor.waits_run]
  exact hloop patience (Nat.le_refl _)

end

/-- Without a protocol nothing is queued. -/
theorem OfflineEngine.keepsQueue : OfflineEngine.engine.KeepsQueue fun _ => [] where
  value_eq _ := rfl
  queue_eq _ := rfl
  step _ _ _ := List.prefix_rfl

/-! ## A run on a stream that ends -/

/-- A run on a stream that ends: what its waits find, what its reads give and how it is with its
outcomes, however many rounds it has and however patient it is. -/
structure FiniteInput (S : Setting η ω) (session : Session η ω) (waits : Nat)
    (answers : List (Except IoFailure (List UInt8))) (last : Except IoFailure (List UInt8)) :
    Prop where
  /-- Behind the first waits, every wait finds the operator's stream ready. -/
  ready : ∀ patience rounds,
    ∀ found ∈ (Reactor.run (S.patient patience) rounds session).events.waits.drop waits,
      found = .ok .input
  /-- The reads give what the stream has, up to its end. -/
  stream : ∀ patience rounds,
    (Reactor.run (S.patient patience) rounds session).events.reads.take (answers.length + 1) <+:
      answers ++ [last]
  /-- The first reads give bytes, or fail for the moment. -/
  goes_on : ∀ answer ∈ answers, endsStream answer = false
  /-- The last one gives no bytes, or fails for good. -/
  ends : endsStream last = true
  /-- In so many rounds, every drain comes to an end when it may take enough outcomes. -/
  drains : ∀ rounds, ∃ patience,
    (Reactor.run (S.patient patience) rounds session).events.DrainsEnd

/-- How a run halts within a number of rounds. -/
structure Halts (S : Setting η ω) (session : Session η ω) (bound : Nat) : Prop where
  /-- There is a run that has stopped after so many rounds at most, and it is what is left whenever
  the console is patient enough and may do one round more. -/
  stops : ∃ patience ran, ran.value.isSome ∧ ran.events.steps.length ≤ bound ∧
    ∀ more rounds, patience ≤ more → bound < rounds →
      Reactor.run (S.patient more) rounds session = ran
  /-- No run reads the stream again when it has ended. -/
  readsToEnd : ∀ patience rounds,
    (Reactor.run (S.patient patience) rounds session).events.ReadsToEnd

namespace FiniteInput

variable {S : Setting η ω} {session : Session η ω} {waits : Nat}
  {answers : List (Except IoFailure (List UInt8))} {last : Except IoFailure (List UInt8)}

/-- The last read that a run can make is the end of the stream. -/
theorem reads_isPrefix (h : FiniteInput S session waits answers last)
    (hinput : session.input = .empty) (patience rounds : Nat) :
    (Reactor.run (S.patient patience) rounds session).events.reads <+: answers ++ [last] := by
  have hstream := h.stream patience rounds
  have hlast := (Travels.run (S.patient patience) rounds session).reads_dropLast hinput
  generalize (Reactor.run (S.patient patience) rounds session).events.reads = reads
    at hstream hlast ⊢
  -- With one read more than the stream has, its end would not be the last read.
  by_cases hshort : reads.length ≤ answers.length + 1
  · rwa [List.take_of_length_le hshort] at hstream
  · exfalso
    have hall : reads.take (answers.length + 1) = answers ++ [last] := by
      apply hstream.eq_of_length
      simp
      omega
    have hmem : last ∈ reads.dropLast := by
      have hfront : answers ++ [last] <+: reads.dropLast := by
        rw [← hall, List.dropLast_eq_take]
        exact List.take_prefix_take_left (by omega)
      exact hfront.subset (by simp)
    simpa [h.ends] using hlast last hmem

theorem length_reads_le (h : FiniteInput S session waits answers last)
    (hinput : session.input = .empty) (patience rounds : Nat) :
    (Reactor.run (S.patient patience) rounds session).events.reads.length ≤ answers.length + 1 := by
  simpa using (h.reads_isPrefix hinput patience rounds).length_le

/-- The lines that are taken are lines of the stream. -/
theorem length_lines_le (h : FiniteInput S session waits answers last)
    (hinput : session.input = .empty) (patience rounds : Nat) :
    (Reactor.run (S.patient patience) rounds session).events.lines.length ≤
      (LineStream.lines (answers.flatMap readBytes) true).length := by
  have hreads := h.reads_isPrefix hinput patience rounds
  have hserviced := Serviced.of_chain (Travels.run (S.patient patience) rounds session) hinput
  have hlines := hserviced.assembled.taken_isPrefix.length_le
  rw [hserviced.closed_eq, Trace.bytesRead_eq, Trace.inputEnded_eq] at hlines
  refine hlines.trans ?_
  generalize (Reactor.run (S.patient patience) rounds session).events.reads = reads at hreads ⊢
  rcases List.prefix_concat_iff.mp hreads with rfl | ⟨more, rfl⟩
  · have hend : readBytes last = [] := by
      cases last with
      | ok bytes => simpa [endsStream, readBytes] using h.ends
      | error failure => rfl
    simp [hend, h.ends]
  · have hopen : reads.any endsStream = false := by
      rw [List.any_eq_false]
      intro answer hmem
      simp [h.goes_on answer (List.mem_append_left _ hmem)]
    rw [hopen, List.flatMap_append]
    exact (LineStream.lines_false_isPrefix _ _).length_le

/-- Only so many waits are left when every wait finds the stream ready. -/
theorem length_waits_le (h : FiniteInput S session waits answers last)
    (hinput : session.input = .empty) (patience rounds : Nat) :
    (Reactor.run (S.patient patience) rounds session).events.waits.length ≤
      waits + (answers.length + 1) +
        (LineStream.lines (answers.flatMap readBytes) true).length + 1 := by
  have hready := h.ready patience rounds
  have hreadied := Reactor.readied_run (S.patient patience) rounds session
  have hreads := h.length_reads_le hinput patience rounds
  have hlines := h.length_lines_le hinput patience rounds
  generalize (Reactor.run (S.patient patience) rounds session).events = trace
    at hready hreadied hreads hlines ⊢
  have hback : (trace.waits.drop waits).length ≤ trace.readied := by
    calc (trace.waits.drop waits).length
        = (trace.waits.drop waits).countP findsInput := by
          symm
          rw [List.countP_eq_length]
          intro found hmem
          rw [hready found hmem]
          rfl
      _ ≤ trace.readied := (List.drop_sublist _ _).countP_le
  rw [List.length_drop] at hback
  rw [Trace.progress] at hreadied
  omega

end FiniteInput

/-- A run on a stream that ends halts: it does one round for each wait in front, for each read and
for each line at most, and one more. -/
theorem run_halts (S : Setting η ω) (session : Session η ω) (hinput : session.input = .empty)
    (waits : Nat) (answers : List (Except IoFailure (List UInt8)))
    (last : Except IoFailure (List UInt8)) (h : FiniteInput S session waits answers last) :
    Halts S session (waits + (answers.length + 1) +
      (LineStream.lines (answers.flatMap readBytes) true).length + 1) := by
  let bound := waits + (answers.length + 1) +
    (LineStream.lines (answers.flatMap readBytes) true).length + 1
  have hreads (patience rounds : Nat) :
      (Reactor.run (S.patient patience) rounds session).events.ReadsToEnd :=
    (Travels.run (S.patient patience) rounds session).readsToEnd hinput
  obtain ⟨patience, hended⟩ := h.drains (bound + 1)
  have hwaits := h.length_waits_le hinput patience (bound + 1)
  have hstopped : (Reactor.run (S.patient patience) (bound + 1) session).value.isSome := by
    by_contra hgoes
    have hnone : (Reactor.run (S.patient patience) (bound + 1) session).value = none := by
      simpa using hgoes
    have hrounds := Reactor.length_waits_run _ _ _ hnone hended
    omega
  refine ⟨⟨patience, _, hstopped, ?_, ?_⟩, hreads⟩
  · rw [hended]
    exact hwaits
  · intro more rounds hpatience hrounds
    exact Reactor.run_longer (S.patient patience) hpatience hrounds hstopped

/-! ## A rehearsed run -/

/-- A console without a protocol. -/
def Setting.offline : Setting OfflineEngine ScriptedHost where
  engine := OfflineEngine.engine
  host := ScriptedHost.host
  fallbacks := .empty
  keeps _ := false
  patience := 1

/-- A session in which the first wait finds nothing, and the operator then ends an empty line and
the stream. -/
def Session.emptyLine : Session OfflineEngine ScriptedHost :=
  .start ⟨1024⟩ { ScriptedHost.idle with polls := [⟨.ok .idle, false⟩], chunks := [.ok [lineFeed]] }
    .working

/-- The stream ends in the third round of the session, and the next look is the last one. -/
theorem finiteInput_emptyLine : FiniteInput .offline .emptyLine 1 [.ok [lineFeed]] (.ok []) where
  ready := by
    have hready : ∀ patience rounds, ((Reactor.run (Setting.offline.patient patience) rounds
        .emptyLine).events.waits.drop 1).all findsInput = true := by
      rintro (_ | patience) (_ | _ | _ | _ | rounds) <;> cbv
    intro patience rounds found hmem
    have hfound := List.all_eq_true.mp (hready patience rounds) found hmem
    unfold findsInput at hfound
    split at hfound
    · rfl
    · simp at hfound
  stream := by
    rintro (_ | patience) rounds
    · cases rounds with
      | zero => exact ⟨[.ok [lineFeed], .ok []], by cbv⟩
      | succ rounds => exact ⟨[.ok [lineFeed], .ok []], by cbv⟩
    · rcases rounds with _ | _ | _ | _ | rounds
      · exact ⟨[.ok [lineFeed], .ok []], by cbv⟩
      · exact ⟨[.ok [lineFeed], .ok []], by cbv⟩
      · exact ⟨[.ok []], by cbv⟩
      · exact ⟨[], by cbv⟩
      · exact ⟨[], by cbv⟩
  goes_on := by simp [endsStream]
  ends := rfl
  drains := OfflineEngine.keepsQueue.drains .emptyLine

theorem run_halts_emptyLine : FiniteInput .offline .emptyLine 1 [.ok [lineFeed]] (.ok []) ∧
    Halts .offline .emptyLine (1 + (1 + 1) + 1 + 1) := by
  have hlines : (LineStream.lines ([.ok [lineFeed]].flatMap readBytes) true).length = 1 := by cbv
  refine ⟨finiteInput_emptyLine, ?_⟩
  rw [← hlines]
  exact run_halts .offline .emptyLine rfl 1 [.ok [lineFeed]] (.ok []) finiteInput_emptyLine

end DeviceConsole
