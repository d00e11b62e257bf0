import DeviceConsole.Proofs.Line.Stream
import DeviceConsole.Proofs.Reactor.Moves
import DeviceConsole.Proofs.Reactor.Rounds

/-!
# The operator's lines during a run

The lines that a run takes are those of the bytes that it has read, in their order, each
once.  Nothing else that happens in between, neither datagrams nor the engine nor a broken
screen, comes in the way.  A round takes at most one of them and serves it before anything
else, and a run that the end of the input stops has taken them all.

Main results:

- Theorem {lit}`Serviced.step`: every step keeps what was taken and what waits in line with
  what was read.
- Theorem {lit}`OnePerRound.loop`: between two looks at the token at most one line is taken.
- Theorem {lit}`Reactor.run_line`: a line that is taken is served in the same round.
- Theorem {lit}`run_servesOperator`: a run serves the operator's lines in order.
-/

namespace DeviceConsole

variable {η ω : Type}

namespace Trace

/-- The bytes that the reads of the operator's stream gave. -/
def bytesRead (trace : Trace) : List UInt8 :=
  trace.flatMap fun
    | .read answer => readBytes answer
    | _ => []

/-- Whether a read of the operator's stream was its end. -/
def inputEnded (trace : Trace) : Bool :=
  trace.any fun
    | .read answer => endsStream answer
    | _ => false

/-- Whether the end of the input has asked the console to stop. -/
def stoppedByInput (trace : Trace) : Bool :=
  trace.any fun
    | .raised .endOfInput _ => true
    | _ => false

@[simp]
theorem bytesRead_append (left right : Trace) :
    bytesRead (left ++ right) = bytesRead left ++ bytesRead right := by
  simp [bytesRead]

@[simp]
theorem inputEnded_append (left right : Trace) :
    inputEnded (left ++ right) = (inputEnded left || inputEnded right) := by
  simp [inputEnded]

@[simp]
theorem stoppedByInput_append (left right : Trace) :
    stoppedByInput (left ++ right) = (stoppedByInput left || stoppedByInput right) := by
  simp [stoppedByInput]

/-- Events that concern neither the operator's stream nor its lines. -/
structure IsAside (events : Trace) : Prop where
  lines_eq : events.lines = []
  bytesRead_eq : events.bytesRead = []
  inputEnded_eq : events.inputEnded = false

theorem isAside_nil : IsAside [] :=
  ⟨rfl, rfl, rfl⟩

theorem isAside_of_isPlain {event : Event} (hplain : event.isPlain) : IsAside [event] := by
  cases event <;> first | exact ⟨rfl, rfl, rfl⟩ | simp [Event.isPlain] at hplain

theorem stoppedByInput_of_isPlain {event : Event} (hplain : event.isPlain) :
    stoppedByInput [event] = false := by
  cases event <;> first | rfl | simp [Event.isPlain] at hplain

theorem IsAside.of_append {front back : Trace} (h : IsAside (front ++ back)) : IsAside front where
  lines_eq := (List.append_eq_nil_iff.mp (lines_append front back ▸ h.lines_eq)).1
  bytesRead_eq := (List.append_eq_nil_iff.mp (bytesRead_append front back ▸ h.bytesRead_eq)).1
  inputEnded_eq := (Bool.or_eq_false_iff.mp (inputEnded_append front back ▸ h.inputEnded_eq)).1

end Trace

/-- A move reads the open stream, or is an aside that leaves the input as it is. -/
theorem Move.read_or_aside {session next : Session η ω} {events : Trace}
    (move : Move session events next) :
    (∃ answer, session.input.closed = false ∧ events = [.read answer] ∧
      next = { session with input := (session.input.fill answer).2 }) ∨
    (events.IsAside ∧ next.input = session.input ∧
      (events.stoppedByInput → session.input.isExhausted)) := by
  cases move with
  | read answer hopen => exact Or.inl ⟨answer, hopen, rfl, rfl⟩
  | tell hplain =>
      right
      refine ⟨Trace.isAside_of_isPlain hplain, rfl, ?_⟩
      simp [Trace.stoppedByInput_of_isPlain hplain]
  | raise source reason hsource =>
      right
      refine ⟨⟨rfl, rfl, rfl⟩, rfl, ?_⟩
      intro hstopped
      apply hsource
      cases source <;> simp_all [Trace.stoppedByInput]
  | resolve peer =>
      right
      split
      · exact ⟨⟨rfl, rfl, rfl⟩, rfl, by simp [Trace.stoppedByInput]⟩
      · exact ⟨Trace.isAside_nil, rfl, by simp [Trace.stoppedByInput]⟩
  | _ =>
      right
      exact ⟨⟨rfl, rfl, rfl⟩, rfl, by simp [Trace.stoppedByInput]⟩

/-! ## In order -/

/-- The input and the token are what the events so far make of them. -/
structure Serviced (past : Trace) (session : Session η ω) : Prop where
  assembled : Assembled past.bytesRead past.lines session.input
  closed_eq : session.input.closed = past.inputEnded
  exhausted : past.stoppedByInput → session.input.isExhausted

/-- What the events so far say about the operator's lines. -/
structure InOrder (past : Trace) : Prop where
  taken : past.lines <+: LineStream.lines past.bytesRead past.inputEnded
  complete : past.stoppedByInput →
    past.inputEnded ∧ past.lines = LineStream.lines past.bytesRead true

namespace Serviced

variable {past events : Trace} {session next : Session η ω}

theorem inOrder (h : Serviced past session) : InOrder past where
  taken := by
    rw [← h.closed_eq]
    exact h.assembled.taken_isPrefix
  complete := by
    intro hstopped
    have hexhausted := h.exhausted hstopped
    refine ⟨?_, h.assembled.taken_eq_of_isExhausted hexhausted⟩
    rw [← h.closed_eq]
    simp only [LineAssembler.isExhausted, Bool.and_eq_true] at hexhausted
    exact hexhausted.1

/-- Asides leave the lines as they are. -/
theorem aside (h : Serviced past session) (haside : events.IsAside)
    (hinput : next.input = session.input)
    (hstopped : events.stoppedByInput → session.input.isExhausted) :
    Serviced (past ++ events) next where
  assembled := by
    rw [Trace.bytesRead_append, Trace.lines_append, haside.bytesRead_eq, haside.lines_eq,
      List.append_nil, List.append_nil, hinput]
    exact h.assembled
  closed_eq := by
    rw [Trace.inputEnded_append, haside.inputEnded_eq, Bool.or_false, hinput]
    exact h.closed_eq
  exhausted := by
    intro hboth
    rw [hinput]
    rw [Trace.stoppedByInput_append, Bool.or_eq_true] at hboth
    rcases hboth with hpast | hevents
    · exact h.exhausted hpast
    · exact hstopped hevents

/-- A read of an open stream goes on with it. -/
theorem read (h : Serviced past session) (hopen : session.input.closed = false)
    (answer : Except IoFailure (List UInt8)) :
    Serviced (past ++ [.read answer])
      { session with input := (session.input.fill answer).2 } := by
  obtain ⟨hassembled, hclosed⟩ := h.assembled.fill hopen answer
  have hpast : past.inputEnded = false := by
    rw [← h.closed_eq]
    exact hopen
  constructor
  · simpa [Trace.bytesRead, Trace.lines] using hassembled
  · rw [hclosed, Trace.inputEnded_append, hpast]
    simp [Trace.inputEnded]
  · intro hstopped
    have hexhausted := h.exhausted (by simpa [Trace.stoppedByInput] using hstopped)
    simp [LineAssembler.isExhausted, hopen] at hexhausted

/-- A line that is taken is the next one. -/
theorem takeLine (h : Serviced past session) {line : OperatorLine} {rest : List OperatorLine}
    (hwait : session.input.lines = line :: rest) :
    Serviced (past ++ [.lineTaken line])
      { session with input := { session.input with lines := rest } } := by
  constructor
  · simpa [Trace.bytesRead, Trace.lines] using h.assembled.takeLine hwait
  · simpa [Trace.inputEnded] using h.closed_eq
  · intro hstopped
    have hexhausted := h.exhausted (by simpa [Trace.stoppedByInput] using hstopped)
    simp [LineAssembler.isExhausted, hwait] at hexhausted

/-- Every step keeps what was taken and what waits in line with what was read. -/
theorem step (h : Serviced past session) (hstep : Step session events next) :
    Serviced (past ++ events) next := by
  cases hstep with
  | move hmove =>
      rcases hmove.read_or_aside with ⟨answer, hopen, rfl, rfl⟩ | ⟨haside, hinput, hstopped⟩
      · exact h.read hopen answer
      · exact h.aside haside hinput hstopped
  | takeLine hwait => exact h.takeLine hwait
  | look => exact h.aside ⟨rfl, rfl, rfl⟩ rfl (by simp [Trace.stoppedByInput])

/-- The events within a step are asides, or there is just one. -/
theorem inOrder_within (h : Serviced past session) (hstep : Step session events next) :
    ∀ now, now <+: events → InOrder (past ++ now) := by
  intro now hnow
  have hends : now = events → InOrder (past ++ now) := by
    rintro rfl
    exact (h.step hstep).inOrder
  have hsingle : ∀ event, events = [event] → InOrder (past ++ now) := by
    rintro event rfl
    rcases List.prefix_cons_iff.mp hnow with rfl | ⟨rest, rfl, hrest⟩
    · rw [List.append_nil]
      exact h.inOrder
    · rw [List.prefix_nil.mp hrest] at hends ⊢
      exact hends rfl
  cases hstep with
  | move hmove =>
      rcases hmove.read_or_aside with ⟨answer, -, hread, -⟩ | ⟨haside, -, hstopped⟩
      · exact hsingle _ hread
      · obtain ⟨back, rfl⟩ := hnow
        refine (h.aside haside.of_append rfl ?_).inOrder
        intro hfront
        exact hstopped (by rw [Trace.stoppedByInput_append, hfront, Bool.true_or])
  | takeLine hwait => exact hsingle _ rfl
  | look => exact hsingle _ rfl

end Serviced

/-! ## One per round -/

/-- Between two looks at the token at most one line is taken. -/
def OnePerRound (trace : Trace) : Prop :=
  ∀ before during after, trace = before ++ during ++ after →
    (∀ reason, .checked reason ∉ during) → during.lines.length ≤ 1

namespace OnePerRound

variable {front back : Trace}

theorem of_length_le (hfront : front.lines.length ≤ 1) : OnePerRound front := by
  intro before during after hsplit _
  rw [hsplit, Trace.lines_append, Trace.lines_append] at hfront
  simp only [List.length_append] at hfront
  omega

/-- A look at the token separates what is in front of it from what follows. -/
theorem append_checked (hfront : OnePerRound front) (reason : Option Termination)
    (hback : OnePerRound back) : OnePerRound (front ++ .checked reason :: back) := by
  intro before during after hsplit hduring
  rw [List.append_assoc] at hsplit
  rcases List.append_eq_append_iff.mp hsplit with ⟨more, hbefore, hrest⟩ | ⟨more, hfirst, hrest⟩
  · -- The part starts behind the front, so the look lies in front of it or begins it.
    cases more with
    | nil =>
        cases during with
        | nil => simp [Trace.lines]
        | cons event rest =>
            obtain ⟨rfl, -⟩ := List.cons.inj hrest
            exact absurd List.mem_cons_self (hduring reason)
    | cons event more =>
        obtain ⟨-, rfl⟩ := List.cons.inj hrest
        exact hback more during after (List.append_assoc _ _ _).symm hduring
  · -- The part starts within the front, and so it ends there before the look.
    rcases List.append_eq_append_iff.mp hrest.symm with ⟨rest, rfl, hlook⟩ | ⟨rest, hmore, -⟩
    · cases rest with
      | nil => exact hfront before (more ++ []) [] (by simp [hfirst]) hduring
      | cons event rest =>
          obtain ⟨rfl, -⟩ := List.cons.inj hlook
          exact absurd (by simp) (hduring reason)
    · exact hfront before during rest (by rw [hfirst, hmore, List.append_assoc]) hduring

end OnePerRound

namespace Trace

theorem lines_nil : lines [] = [] :=
  rfl

theorem lines_lineTaken (line : OperatorLine) : lines [.lineTaken line] = [line] :=
  rfl

/-- Without marks no line is taken. -/
theorem lines_of_not_isMark {trace : Trace} (h : ∀ event ∈ trace, event.isMark = false) :
    trace.lines = [] := by
  rw [lines, List.filterMap_eq_nil_iff]
  intro event hmem
  have hmark := h event hmem
  cases event <;> first | rfl | simp [Event.isMark] at hmark

end Trace

namespace Travels

variable {α : Type} {S : Setting η ω}

/-- An activity that is a chain of moves takes no line. -/
theorem lines_eq_nil {activity : Activity (Session η ω) α} (h : Travels Move activity)
    (session : Session η ω) : (activity session).events.lines = [] :=
  Trace.lines_of_not_isMark (h.not_isMark session)

end Travels

namespace Reactor

variable (S : Setting η ω) (session : Session η ω)

theorem length_lines_serveNextLine : (serveNextLine S session).events.lines.length ≤ 1 := by
  unfold serveNextLine
  rw [Activity.bind_events, Trace.lines_append]
  cases hlines : session.input.lines with
  | nil =>
      simp [Session.takeLine, LineAssembler.takeLine, hlines,
        (Travels.endInput S).lines_eq_nil, Trace.lines_nil]
  | cons line rest =>
      simp [Session.takeLine, LineAssembler.takeLine, hlines,
        (Travels.serveLine S line).lines_eq_nil, Trace.lines_lineTaken]

theorem length_lines_serveInput (readable : Bool) :
    (serveInput S readable session).events.lines.length ≤ 1 := by
  unfold serveInput
  cases readable with
  | false => exact length_lines_serveNextLine S session
  | true =>
      simp only [if_true, Activity.bind_events, Trace.lines_append,
        (Travels.fillInput S).lines_eq_nil, (Travels.logFailure S _ _).lines_eq_nil,
        List.nil_append]
      exact length_lines_serveNextLine S _

theorem length_lines_serve (answer : Except WaitFailure Readiness) :
    (serve S answer session).events.lines.length ≤ 1 := by
  rcases answer with failure | readiness
  · cases failure with
    | interrupted => exact Nat.zero_le 1
    | failed cause => simp [serve, (Travels.log S _).lines_eq_nil]
  · cases readiness with
    | socket => simp [serve, (Travels.serveSocket S).lines_eq_nil]
    | input => exact length_lines_serveInput S session true
    | idle =>
        rw [serve, Activity.get_bind_run]
        split
        · exact length_lines_serveInput S session false
        · exact Nat.zero_le 1

/-- A round takes at most one line. -/
theorem length_lines_iterate : (iterate S session).events.lines.length ≤ 1 := by
  unfold iterate
  simp only [Activity.bind_events, Trace.lines_append, (Travels.stepEngineOnce S).lines_eq_nil,
    (Travels.drain S _).lines_eq_nil, List.nil_append]
  split
  · simp only [Activity.bind_events, Activity.get_run, Trace.lines_append,
      (Travels.wait S _).lines_eq_nil, List.nil_append, Activity.pure_run, List.append_nil]
    exact length_lines_serve S _ _
  · exact Nat.zero_le 1

end Reactor

/-! ## The run -/

namespace OnePerRound

variable (S : Setting η ω)

/-- At most one line is taken between two looks of the loop, also with what came in front of
it and what comes behind it. -/
theorem loop (rounds : Nat) (session : Session η ω) {front back : Trace}
    (hfront : front.lines.length ≤ 1) (hback : back.lines = []) :
    OnePerRound (front ++ ((Reactor.loop S rounds session).events ++ back)) := by
  induction rounds generalizing session front with
  | zero =>
      refine of_length_le ?_
      simpa [Reactor.loop, hback] using hfront
  | succ rounds ih =>
      rw [Reactor.loop, Activity.bind_events, Session.check_events, List.append_assoc,
        List.append_assoc, ← List.append_assoc front, List.singleton_append]
      refine append_checked (of_length_le ?_) _ ?_
      · simpa [(Travels.attend S).lines_eq_nil] using hfront
      · have hround := Reactor.length_lines_iterate S
        cases (Session.check S session).value with
        | some reason => exact of_length_le (by simp [hback])
        | none =>
            dsimp only
            rw [Activity.bind_events, List.append_assoc]
            split
            · exact ih _ (hround _)
            · exact of_length_le (by simpa [hback] using hround _)

theorem run (rounds : Nat) (session : Session η ω) :
    OnePerRound (Reactor.run S rounds session).events := by
  rw [Reactor.run, Activity.bind_events, Activity.bind_events]
  refine loop S rounds _ ?_ ?_
  · simp [(Travels.writeConsole S _).lines_eq_nil]
  · cases (Reactor.loop S rounds (Session.writeConsole S prompt session).session).value with
    | none => rfl
    | some reason => simp [(Travels.shutdown S reason).lines_eq_nil]

end OnePerRound

/-! ## A line that is taken -/

namespace Reactor

variable (S : Setting η ω) {session : Session η ω} {line : OperatorLine} {front rest : Trace}

theorem serveNextLine_line
    (hsplit : (serveNextLine S session).events = front ++ .lineTaken line :: rest) :
    ∃ served, rest = (serveLine S line served).events := by
  cases hlines : session.input.lines with
  | nil =>
      have hmem : .lineTaken line ∈ (endInput S session).events := by
        have hevents : (serveNextLine S session).events = (endInput S session).events := by
          simp [serveNextLine, Session.takeLine, LineAssembler.takeLine, hlines]
        rw [← hevents, hsplit]
        simp
      exact absurd rfl ((Concerns.endInput S).topic_ne hmem .line (by decide))
  | cons first others =>
      let taken := (Session.takeLine session).session
      have hevents : (serveNextLine S session).events =
          .lineTaken first :: (serveLine S first taken).events := by
        simp [serveNextLine, Session.takeLine, LineAssembler.takeLine, hlines, taken]
      rw [hevents] at hsplit
      cases front with
      | nil =>
          obtain ⟨hline, hrest⟩ := List.cons.inj hsplit
          obtain rfl := Event.lineTaken.inj hline
          exact ⟨taken, hrest.symm⟩
      | cons event front =>
          have htopic := (Concerns.serveLine S first).mem_of_split (List.cons.inj hsplit).2
          simp [Event.topic] at htopic

theorem serveInput_line {readable : Bool}
    (hsplit : (serveInput S readable session).events = front ++ .lineTaken line :: rest) :
    ∃ served, rest = (serveLine S line served).events := by
  cases readable with
  | false => exact serveNextLine_line S hsplit
  | true =>
      obtain ⟨_, hlogged⟩ := (Concerns.fillInput S).split_bind (by simp [Event.topic]) hsplit
      obtain ⟨_, htaken⟩ := (Concerns.logFailure S _ _).split_bind (by simp [Event.topic]) hlogged
      exact serveNextLine_line S htaken

/-- Where a line is taken, it is served. -/
theorem serve_line {found : Except WaitFailure Readiness}
    (hsplit : (serve S found session).events = front ++ .lineTaken line :: rest) :
    ∃ served, rest = (serveLine S line served).events := by
  rcases found with failure | readiness
  · cases failure with
    | interrupted => simp [serve] at hsplit
    | failed cause =>
        have htopic := (Concerns.log S _).mem_of_split hsplit
        simp [Event.topic] at htopic
  · cases readiness with
    | socket =>
        have htopic := (Concerns.serveSocket S).mem_of_split hsplit
        simp [Event.topic] at htopic
    | input => exact serveInput_line S hsplit
    | idle =>
        rw [serve, Activity.get_bind_run] at hsplit
        split at hsplit
        · exact serveInput_line S hsplit
        · simp at hsplit

/-- A line that is taken is served in the same round, and nothing else is done there. -/
theorem run_line (rounds : Nat) {before after : Trace}
    (hsplit : (run S rounds session).events = before ++ .lineTaken line :: after) :
    ∃ served next, after = (serveLine S line served).events ++ next ∧ next.MeetsLook := by
  obtain ⟨rest, next, hafter, hnext, hplace⟩ :=
    run_split S rounds session hsplit (by simp [Event.topic])
  obtain ⟨found, begun, front, hserve⟩ := hplace.served S (by simp [Event.topic])
  obtain ⟨served, rfl⟩ := serve_line S hserve
  exact ⟨served, next, hafter, hnext⟩

end Reactor

/-! ## Why a run stops -/

/-- A reason to stop that was there from the start or was raised since. -/
def IsRaised (first : Option Termination) (past : Trace) (reason : Termination) : Prop :=
  first = some reason ∨ ∃ source, .raised source reason ∈ past

theorem IsRaised.append {first : Option Termination} {past : Trace} {reason : Termination}
    (h : IsRaised first past reason) (events : Trace) : IsRaised first (past ++ events) reason := by
  rcases h with hfirst | ⟨source, hmem⟩
  · exact Or.inl hfirst
  · exact Or.inr ⟨source, List.mem_append_left _ hmem⟩

/-- Every reason that the token holds, or that the loop has found there, was raised. -/
structure Accounted (first : Option Termination) (past : Trace) (session : Session η ω) :
    Prop where
  token : ∀ reason, session.token = some reason → IsRaised first past reason
  checked : ∀ reason, .checked (some reason) ∈ past → IsRaised first past reason

namespace Accounted

variable {first : Option Termination} {past events : Trace} {session next : Session η ω}

/-- A move looks at nothing, and changes the token only by raising a reason. -/
theorem move (h : Accounted first past session) (hmove : Move session events next) :
    Accounted first (past ++ events) next where
  token := by
    intro reason htoken
    cases hmove with
    | raise source raised _ =>
        obtain rfl : raised = reason := Option.some.inj htoken
        exact Or.inr ⟨source, by simp⟩
    | _ => exact (h.token reason htoken).append _
  checked := by
    intro reason hmem
    rcases List.mem_append.mp hmem with hpast | hnow
    · exact (h.checked reason hpast).append _
    · simpa [Event.isMark] using hmove.not_isMark _ hnow

theorem step (h : Accounted first past session) (hstep : Step session events next) :
    Accounted first (past ++ events) next := by
  cases hstep with
  | move hmove => exact h.move hmove
  | takeLine hwait =>
      constructor
      · exact fun reason htoken => (h.token reason htoken).append _
      · intro reason hmem
        exact (h.checked reason (by simpa using hmem)).append _
  | look =>
      constructor
      · exact fun reason htoken => (h.token reason htoken).append _
      · intro reason hmem
        rcases List.mem_append.mp hmem with hpast | hnow
        · exact (h.checked reason hpast).append _
        · have htoken : some reason = session.token := by simpa using hnow
          exact (h.token reason htoken.symm).append _

end Accounted

namespace Reactor

variable (S : Setting η ω)

/-- The loop ends with a reason only when it has found it. -/
theorem checked_of_loop_value (rounds : Nat) (session : Session η ω) {reason : Termination}
    (hvalue : (loop S rounds session).value = some reason) :
    .checked (some reason) ∈ (loop S rounds session).events := by
  induction rounds generalizing session with
  | zero => simp [loop] at hvalue
  | succ rounds ih =>
      rw [loop, Activity.bind_value] at hvalue
      rw [loop, Activity.bind_events, Session.check_events, List.mem_append]
      rw [Session.check_value] at hvalue ⊢
      cases htoken : (Session.attend S session).session.token with
      | some found =>
          rw [htoken] at hvalue
          obtain rfl : found = reason := Option.some.inj hvalue
          exact Or.inl (by simp)
      | none =>
          right
          simp only [htoken, Activity.bind_value, Activity.bind_events, List.mem_append] at hvalue ⊢
          right
          split at hvalue
          · rename_i hfinished
            rw [if_pos hfinished]
            exact ih _ hvalue
          · simp at hvalue

theorem checked_of_run_value (rounds : Nat) (session : Session η ω) {reason : Termination}
    (hvalue : (run S rounds session).value = some reason) :
    .checked (some reason) ∈ (run S rounds session).events := by
  rw [run, Activity.bind_value, Activity.bind_value] at hvalue
  rw [run, Activity.bind_events, Activity.bind_events, List.mem_append, List.mem_append]
  have hloop := @checked_of_loop_value _ _ S rounds (Session.writeConsole S prompt session).session
  cases hfound : (loop S rounds (Session.writeConsole S prompt session).session).value with
  | none => simp [hfound] at hvalue
  | some found =>
      obtain rfl : found = reason := by simpa [hfound] using hvalue
      exact Or.inr (Or.inl (hloop hfound))

end Reactor

/-! ## The service of a run -/

/-- How a run serves the operator that starts with a given reason to stop, or with none. -/
structure ServesOperator (S : Setting η ω) (first : Option Termination) (trace : Trace)
    (value : Option Termination) : Prop where
  /-- At every point, the lines taken so far are the first ones of the bytes read so far. -/
  in_order : ∀ before after : Trace, trace = before ++ after →
    before.lines <+: LineStream.lines before.bytesRead before.inputEnded
  /-- Between two looks of the loop at most one line is taken. -/
  one_per_round : OnePerRound trace
  /-- A line that is taken is served, and with that the round is over. -/
  answered : ∀ (before after : Trace) (line : OperatorLine),
    trace = before ++ .lineTaken line :: after →
      ∃ (session : Session η ω) (next : Trace),
        after = (Reactor.serveLine S line session).events ++ next ∧ next.MeetsLook
  /-- When the end of the input asks the console to stop, every line was taken, and so it is
  when the run is over. -/
  complete : ∀ (before after : Trace) (reason : Termination),
    trace = before ++ .raised .endOfInput reason :: after →
      (before.inputEnded ∧ before.lines = LineStream.lines before.bytesRead true) ∧
      (trace.inputEnded ∧ trace.lines = LineStream.lines trace.bytesRead true)
  /-- A run that nobody but the end of the input has stopped has served every line. -/
  served : first = none → ∀ reason, value = some reason →
    (∀ source, .raised source reason ∈ trace → source = .endOfInput) →
      trace.inputEnded ∧ trace.lines = LineStream.lines trace.bytesRead true

theorem Serviced.start {session : Session η ω} (hinput : session.input = .empty) :
    Serviced [] session where
  assembled := by
    rw [hinput]
    exact Assembled.empty
  closed_eq := by
    rw [hinput]
    rfl
  exhausted := by simp [Trace.stoppedByInput]

/-- At every point of a chain that starts with an empty input, lines are taken in order. -/
theorem Chain.inOrder {first last : Session η ω} {events : Trace}
    (hchain : Chain Step first events last) (hinput : first.input = .empty) :
    ∀ now, now <+: events → InOrder now := by
  have hfirst := Serviced.start hinput
  exact @Chain.always _ _ _ _ _ _ Serviced InOrder Serviced.step Serviced.inOrder_within
    hchain [] hfirst hfirst.inOrder

/-- At the end of a chain every reason that was found was there from the start or was raised
on the way. -/
theorem Chain.accounted {first last : Session η ω} {events : Trace}
    (hchain : Chain Step first events last) : Accounted first.token events last := by
  have hfirst : Accounted first.token [] first := ⟨fun reason htoken => Or.inl htoken, by simp⟩
  exact @Chain.keeps _ _ _ _ _ _ (Accounted first.token) Accounted.step hchain [] hfirst

theorem Trace.stoppedByInput_of_mem {trace : Trace} {reason : Termination}
    (hmem : .raised .endOfInput reason ∈ trace) : trace.stoppedByInput := by
  rw [stoppedByInput, List.any_eq_true]
  exact ⟨_, hmem, rfl⟩

/-- When the end of the input asks to stop, everything was taken just before. -/
theorem InOrder.complete_before {before : Trace} {reason : Termination}
    (h : InOrder (before ++ [.raised .endOfInput reason])) :
    before.inputEnded ∧ before.lines = LineStream.lines before.bytesRead true := by
  have hmem : .raised .endOfInput reason ∈ before ++ [.raised .endOfInput reason] := by simp
  have hcomplete := h.complete (Trace.stoppedByInput_of_mem hmem)
  simpa [Trace.inputEnded, Trace.lines, Trace.bytesRead] using hcomplete

/-- A run serves the operator's lines in order, at most one in a round, and all of them when
it is the end of the input that stops it. -/
theorem run_servesOperator (S : Setting η ω) (rounds : Nat) (session : Session η ω) :
    let ran := Reactor.run S rounds { session with input := .empty }
    ServesOperator S session.token ran.events ran.value := by
  intro ran
  have hchain : Chain Step _ ran.events ran.session := Travels.run S rounds _
  have hall := hchain.inOrder rfl
  constructor
  · intro before after hsplit
    exact (hall before ⟨after, hsplit.symm⟩).taken
  · exact OnePerRound.run S rounds _
  · intro before after line hsplit
    exact Reactor.run_line S rounds hsplit
  · intro before after reason hsplit
    have hmem : .raised .endOfInput reason ∈ ran.events := by simp [hsplit]
    have hfront := hall (before ++ [.raised .endOfInput reason]) ⟨after, by simp [hsplit]⟩
    exact ⟨hfront.complete_before,
      (hall _ List.prefix_rfl).complete (Trace.stoppedByInput_of_mem hmem)⟩
  · intro hrunning reason hvalue honly
    have hchecked := Reactor.checked_of_run_value S rounds _ hvalue
    rcases hchain.accounted.checked reason hchecked with hfirst | ⟨source, hmem⟩
    · simp [hrunning] at hfirst
    · rw [honly source hmem] at hmem
      exact (hall _ List.prefix_rfl).complete (Trace.stoppedByInput_of_mem hmem)

end DeviceConsole
