import DeviceConsole.Proofs.Command.Replies
import DeviceConsole.Proofs.Reactor.Discipline
import DeviceConsole.Proofs.Reactor.Prompts

/-!
# The last text for a line

When a command is answered, the console looks once more whether it is asked to stop.  If it is, the
answer ends with an empty line, and with a prompt otherwise.  What was raised before the look
counts, whoever raised it and when; an interrupt behind the look is too late for the answer.  A
line that is too long is answered without a look: a prompt ends the answer, although the console
may be about to stop.

Main results:

- Theorem {lit}`EndsLine.behind`: what comes before the answer belongs to what the look finds.
- Theorem {lit}`EndsLine.serveInput`: every line that is served has its last text.
- Theorem {lit}`Reactor.serveInput_endsLines`: when the last text for a line is a prompt.
-/

namespace DeviceConsole

variable {η ω α β : Type}

/-- The text that ends the answer to a line, when the console was asked to stop by the time of its
look or not. -/
def OperatorLine.lastText : OperatorLine → Bool → String
  | .command _, true => "\n"
  | .command _, false => prompt
  | .overlong, _ => prompt

/-! ## Texts and the log -/

namespace Session

variable (S : Setting η ω) (session : Session η ω)

theorem logged_of_logFailure {diagnostic : IoFailure → Diagnostic} {result : Except IoFailure Unit}
    {event : Event} (hmem : event ∈ (logFailure S diagnostic result session).events) :
    ∃ told, event = .logged told := by
  cases result with
  | ok _ => simp [logFailure] at hmem
  | error failure =>
      cases hkeeps : S.keeps (diagnostic failure) with
      | true => exact ⟨diagnostic failure, by simpa [logFailure, log, hkeeps] using hmem⟩
      | false => simp [logFailure, log, hkeeps] at hmem

/-- What stands behind a text on the console is in the log only. -/
theorem writeConsole_events (text : String) : ∃ back : Trace,
    (writeConsole S text session).events = (attend S session).events ++
      .wrote (session.console.clip (Utf8.encode text)) :: back ∧
      ∀ event ∈ back, ∃ told, event = .logged told := by
  let flushed := writeFlushed S text session
  refine ⟨(logFailure S .consoleNotWritten flushed.value flushed.session).events, ?_,
    fun event hmem => logged_of_logFailure S _ hmem⟩
  rw [writeConsole, Activity.bind_events, writeFlushed_events, write_events, List.append_assoc,
    List.singleton_append]

end Session

theorem Trace.texts_eq_nil_of_logged {trace : Trace}
    (h : ∀ event ∈ trace, ∃ told, event = .logged told) : trace.texts = [] := by
  rw [texts, List.filterMap_eq_nil_iff]
  intro event hmem
  obtain ⟨told, rfl⟩ := h event hmem
  rfl

/-! ## Ending the answer to a line -/

/-- The events are the answer to a line and the look behind it, the last text, and what is told to
the log about the text. -/
structure LineEnd (line : OperatorLine) (first : Session η ω) (events answer late back : Trace) :
    Prop where
  /-- The text goes with what the look has found. -/
  events_eq : events = answer ++ late ++ .wrote ((first.console.after answer.output).clip
    (Utf8.encode (line.lastText (answer.lastReason first.token).isSome))) :: back
  /-- Nothing but an interrupt comes up between the look and the text. -/
  late_eq : late = [] ∨ late = [.raised .interrupt .interrupted]
  logged : ∀ event ∈ back, ∃ told, event = .logged told

/-- The events end with the last text for a line. -/
def EndsLine (line : OperatorLine) (first : Session η ω) (events : Trace) : Prop :=
  ∃ answer late back, LineEnd line first events answer late back

namespace EndsLine

variable {line : OperatorLine}

/-- What comes before the answer belongs to what the look finds. -/
theorem behind {first : Activity (Session η ω) α} {next : α → Activity (Session η ω) β}
    {session : Session η ω} (hfirst : Travels Step first)
    (hnext : EndsLine line (first session).session
      (next (first session).value (first session).session).events) :
    EndsLine line session ((first >>= next) session).events := by
  obtain ⟨answer, late, back, hend⟩ := hnext
  refine ⟨(first session).events ++ answer, late, back, ?_, hend.late_eq, hend.logged⟩
  rw [Activity.bind_events, hend.events_eq, Trace.output_append, Console.after_append,
    ← (hfirst session).console_after, Trace.lastReason_append,
    ← (Held.of_travels hfirst session).token_eq]
  simp only [List.append_assoc]

variable (S : Setting η ω)

/-- With the token in view, the text that goes with it ends the answer. -/
theorem writeConsole (line : OperatorLine) (session : Session η ω) :
    EndsLine line session
      (Session.writeConsole S (line.lastText session.token.isSome) session).events := by
  obtain ⟨back, hevents, hback⟩ :=
    Session.writeConsole_events S session (line.lastText session.token.isSome)
  refine ⟨[], (Session.attend S session).events, back, ?_, Session.attend_events S session, hback⟩
  have hconsole : session.console.after (Trace.output []) = session.console :=
    Console.after_nil _
  rw [hevents, hconsole, List.nil_append]
  rfl

theorem promptAgain (text : String) (session : Session η ω) :
    EndsLine (.command text) session (Reactor.promptAgain S session).events := by
  refine behind (Travels.isRaised S).steps ?_
  have hvalue : (Session.isRaised S session).value =
      (Session.isRaised S session).session.token.isSome := rfl
  have hwritten := writeConsole S (.command text) (Session.isRaised S session).session
  rw [hvalue]
  cases hraised : (Session.isRaised S session).session.token.isSome with
  | true => simpa [hraised, OperatorLine.lastText] using hwritten
  | false => simpa [hraised, OperatorLine.lastText] using hwritten

theorem runCommand (text : String) (session : Session η ω) :
    EndsLine (.command text) session (Reactor.runCommand S text session).events := by
  unfold Reactor.runCommand
  dsimp only
  split
  · exact behind (Travels.dispatch S _).steps <| behind (Travels.logFailure S _ _).steps <|
      behind (Travels.writeConsole S _).steps <| promptAgain S text _
  · exact promptAgain S text session

theorem serveLine (line : OperatorLine) (session : Session η ω) :
    EndsLine line session (Reactor.serveLine S line session).events := by
  cases line with
  | command text => exact runCommand S text session
  | overlong =>
      exact behind (Travels.log S _).steps <| behind (Travels.writeConsole S _).steps <|
        behind (Travels.writeConsole S _).steps <| writeConsole S .overlong _

theorem serveNextLine {session : Session η ω} {rest : List OperatorLine}
    (hwait : session.input.lines = line :: rest) :
    EndsLine line session (Reactor.serveNextLine S session).events := by
  have hvalue : (Session.takeLine session).value = some line := by
    simp [Session.takeLine, LineAssembler.takeLine, hwait]
  unfold Reactor.serveNextLine
  refine behind Travels.takeLine ?_
  rw [hvalue]
  exact serveLine S line _

/-- Every line that is served has its last text. -/
theorem serveInput {readable : Bool} {session : Session η ω}
    (hline : line ∈ (Reactor.serveInput S readable session).events.lines) :
    EndsLine line session (Reactor.serveInput S readable session).events := by
  let filled := Reactor.fillWhen S readable session
  have hfilled : filled.events.lines = [] :=
    (Reactor.concerns_fillWhen S readable).lines_eq_nil session (by decide)
  rw [Reactor.serveInput_eq] at hline ⊢
  rw [Activity.bind_events, Trace.lines_append, hfilled, List.nil_append,
    Reactor.lines_serveNextLine] at hline
  refine behind (Reactor.travels_fillWhen S readable) ?_
  cases hwait : filled.session.input.lines with
  | nil => simp [filled, hwait] at hline
  | cons next rest =>
      obtain rfl : line = next := by simpa [filled, hwait] using hline
      exact serveNextLine S hwait

end EndsLine

/-! ## On a screen that takes everything -/

namespace LineEnd

variable {line : OperatorLine} {first : Session η ω} {events answer late back : Trace}

/-- Of the reasons to stop, the text may miss the late interrupt only. -/
theorem lastReason_eq (h : LineEnd line first events answer late back) :
    events.lastReason first.token = late.lastReason (answer.lastReason first.token) := by
  have hback : ∀ reason, Trace.lastReason reason back = reason := by
    refine fun reason => Trace.lastReason_eq fun source raised hmem => ?_
    obtain ⟨told, htold⟩ := h.logged _ hmem
    simp at htold
  rw [h.events_eq, Trace.lastReason_append, Trace.lastReason_append]
  exact hback _

/-- What the operator or the engine asks comes before the look. -/
theorem mem_answer (h : LineEnd line first events answer late back) {source : RaiseSource}
    {reason : Termination} (hmem : .raised source reason ∈ events) (hsource : source ≠ .interrupt) :
    .raised source reason ∈ answer := by
  rw [h.events_eq, List.append_assoc, List.mem_append, List.mem_append, List.mem_cons] at hmem
  rcases hmem with hanswer | hlate | hwrote | hback
  · exact hanswer
  · rcases h.late_eq with rfl | rfl
    · simp at hlate
    · simp [hsource] at hlate
  · simp at hwrote
  · obtain ⟨told, htold⟩ := h.logged _ hback
    simp at htold

variable (hroom : first.console.room = none)

include hroom

/-- A screen without a limit takes the whole text. -/
theorem events_eq_of_room (h : LineEnd line first events answer late back) :
    events = answer ++ late ++
      .wrote (Utf8.encode (line.lastText (answer.lastReason first.token).isSome)) :: back := by
  have hclip : ∀ bytes, (first.console.after answer.output).clip bytes = bytes := by
    simp [Console.clip, Console.after, hroom]
  rw [h.events_eq, hclip]

theorem getLast?_texts (h : LineEnd line first events answer late back) :
    events.texts.getLast? =
      some (Utf8.encode (line.lastText (answer.lastReason first.token).isSome)) := by
  rw [h.events_eq_of_room hroom, Trace.texts_append, Trace.texts_wrote,
    Trace.texts_eq_nil_of_logged h.logged]
  exact List.getLast?_concat

/-- While the console goes on, a prompt is the last text. -/
theorem prompt_of_running (h : LineEnd line first events answer late back)
    (hrunning : events.lastReason first.token = none) :
    events.texts.getLast? = some (Utf8.encode prompt) := by
  have hanswer : answer.lastReason first.token = none := by
    rw [h.lastReason_eq] at hrunning
    cases hraised : answer.lastReason first.token with
    | none => rfl
    | some reason =>
        have hlate : (Trace.lastReason (some reason) late).isSome := Trace.isSome_lastReason late
        rw [← hraised, hrunning] at hlate
        simp at hlate
  rw [h.getLast?_texts hroom, hanswer]
  cases line <;> rfl

/-- When the look finds a reason to stop, an empty line is the last text for a command. -/
theorem emptyLine_of_found {text : String}
    (h : LineEnd (.command text) first events answer late back)
    (hfound : (answer.lastReason first.token).isSome) :
    events.texts.getLast? = some (Utf8.encode "\n") := by
  rw [h.getLast?_texts hroom, hfound]
  rfl

/-- When the look finds none, but the console is asked to stop after all, it is an interrupt that
asks, and comes up when the prompt is about to be written. -/
theorem interrupt_of_missed {text : String}
    (h : LineEnd (.command text) first events answer late back)
    (hmissed : answer.lastReason first.token = none)
    (hstopping : (events.lastReason first.token).isSome) :
    events = answer ++ .raised .interrupt .interrupted :: .wrote (Utf8.encode prompt) :: back := by
  have hevents := h.events_eq_of_room hroom
  rw [h.lastReason_eq, hmissed] at hstopping
  rcases h.late_eq with rfl | rfl
  · simp [Trace.lastReason] at hstopping
  · rw [hevents, hmissed, List.append_assoc]
    rfl

end LineEnd

/-! ## Serving the operator -/

/-- How the answer to a line ends. -/
structure EndsLines (session : Session η ω) (served : Ran (Session η ω) Unit) : Prop where
  /-- One line is served at most. -/
  one_line : served.events.lines.length ≤ 1
  /-- Whatever the screen takes, the text is written last that goes with what the look behind the
  answer has found; an interrupt may come up in between. -/
  last_text : ∀ line ∈ served.events.lines, EndsLine line session served.events
  /-- While the console goes on, a prompt is the last text, for a command and for a line that is
  too long. -/
  running : session.console.room = none → served.session.token = none →
    ∀ line ∈ served.events.lines, served.events.texts.getLast? = some (Utf8.encode prompt)
  /-- When the console was asked to stop before the line was served, or is asked by the operator or
  the engine meanwhile, an empty line is the last text for a command. -/
  asked : session.console.room = none →
    (session.token.isSome ∨
      ∃ source reason, source ≠ .interrupt ∧ .raised source reason ∈ served.events) →
      ∀ text, .command text ∈ served.events.lines →
        served.events.texts.getLast? = some (Utf8.encode "\n")
  /-- Whenever it is about to stop, an empty line is the last text for a command, unless nothing
  asks but an interrupt that comes up when the prompt is about to be written. -/
  stopping : session.console.room = none → served.session.token.isSome →
    ∀ text, .command text ∈ served.events.lines →
      served.events.texts.getLast? = some (Utf8.encode "\n") ∨
        ∃ before back : Trace, served.events =
            before ++ .raised .interrupt .interrupted :: .wrote (Utf8.encode prompt) :: back ∧
          before.lastReason session.token = none ∧ back.texts = []
  /-- For a line that is too long a prompt is the last text, whether the console goes on or not. -/
  overlong : session.console.room = none → .overlong ∈ served.events.lines →
    served.events.texts.getLast? = some (Utf8.encode prompt)

/-- Whatever line is served, its answer ends with a prompt while the console goes on.  It is a
command only that ends otherwise when the console is asked to stop. -/
theorem Reactor.serveInput_endsLines (S : Setting η ω) (readable : Bool) (session : Session η ω) :
    EndsLines session (serveInput S readable session) := by
  have htoken := (Held.of_travels (Travels.serveInput S readable) session).token_eq
  have hends : ∀ line ∈ (serveInput S readable session).events.lines,
      EndsLine line session (serveInput S readable session).events :=
    fun line hline => EndsLine.serveInput S hline
  constructor
  · exact length_lines_serveInput S session readable
  · exact hends
  · intro hroom hrunning line hline
    obtain ⟨answer, late, back, hend⟩ := hends line hline
    exact hend.prompt_of_running hroom (htoken ▸ hrunning)
  · intro hroom hasked text hline
    obtain ⟨answer, late, back, hend⟩ := hends _ hline
    refine hend.emptyLine_of_found hroom ?_
    rcases hasked with hbefore | ⟨source, reason, hsource, hmem⟩
    · obtain ⟨reason, hreason⟩ := Option.isSome_iff_exists.mp hbefore
      rw [hreason]
      exact Trace.isSome_lastReason answer
    · exact Trace.isSome_lastReason_of_mem (hend.mem_answer hmem hsource)
  · intro hroom hstopping text hline
    obtain ⟨answer, late, back, hend⟩ := hends _ hline
    cases hfound : answer.lastReason session.token with
    | some reason => exact Or.inl (hend.emptyLine_of_found hroom (by rw [hfound]; rfl))
    | none =>
        refine Or.inr ⟨answer, back, ?_, hfound, Trace.texts_eq_nil_of_logged hend.logged⟩
        exact hend.interrupt_of_missed hroom hfound (htoken ▸ hstopping)
  · intro hroom hline
    obtain ⟨answer, late, back, hend⟩ := hends _ hline
    exact hend.getLast?_texts hroom

/-- A line that is too long is answered with a prompt when the console was interrupted before. -/
theorem Reactor.prompt_behind_overlong :
    let session : Session OfflineEngine ScriptedHost :=
      { Session.start ⟨1024⟩ ScriptedHost.idle .working with
        input := ⟨[.overlong], .empty, false⟩, token := some .interrupted }
    let served := Reactor.serveInput .shipped false session
    served.events.lines = [.overlong] ∧ served.session.token = some .interrupted ∧
      served.events.texts.getLast? = some (Utf8.encode prompt) := by
  decide +kernel

end DeviceConsole
