import DeviceConsole.Proofs.Reactor.Stopping
import DeviceConsole.Proofs.Session.Prompt

/-!
# Prompts during a run

Whatever a run does, the operator is at a prompt whenever it waits.  Outcomes end in a prompt
themselves, and so does everything that answers a line, unless the console is asked to stop.
No other text ends in a prompt, and nothing else is written.

Main results:

- Theorem {lit}`Leads.dispatch`: what answers a command leaves the prompt owed.
- Theorem {lit}`Settles.iterate`: a round leaves the operator at a prompt, or is the last one.
- Theorem {lit}`Reactor.follow_run`: the prompt can be followed through every run.
- Theorem {lit}`run_leavesPrompt`: a run waits at a prompt only.
-/

namespace DeviceConsole

variable {η ω α β : Type}

open PromptState (shown owed)

/-! ## Texts that do not end in a prompt -/

theorem not_endsInPrompt_append (text last : String) (byte : UInt8)
    (hlast : Utf8.encode last = [byte]) (hbyte : byte ≠ 0x20) :
    ¬ EndsInPrompt (Utf8.encode (text ++ last)) := by
  rw [Utf8.encode_append, hlast]
  exact not_endsInPrompt_concat _ hbyte

theorem not_endsInPrompt_line (text : String) : ¬ EndsInPrompt (Utf8.encode (text ++ "\n")) :=
  not_endsInPrompt_append text "\n" 10 (by decide) (by decide)

/-- Lines do not end in a prompt, nor do they make one out of what is in front of them. -/
theorem not_endsInPrompt_join {front : String} (hfront : ¬ EndsInPrompt (Utf8.encode front))
    (lines : List String) (hlines : ∀ line ∈ lines, ∃ body, line = body ++ "\n") :
    ¬ EndsInPrompt (Utf8.encode (front ++ String.join lines)) := by
  rcases List.eq_nil_or_concat lines with rfl | ⟨init, last, rfl⟩
  · simpa [String.join] using hfront
  · obtain ⟨body, rfl⟩ := hlines last (by simp)
    have hjoin : String.join (init.concat (body ++ "\n")) = String.join init ++ body ++ "\n" := by
      simp [String.join, List.concat_eq_append, String.append_assoc]
    rw [hjoin, ← String.append_assoc]
    exact not_endsInPrompt_line _

theorem Registry.not_endsInPrompt_listing (registry : Registry) :
    ¬ EndsInPrompt (Utf8.encode registry.listing) := by
  unfold listing
  split
  · exact not_endsInPrompt_line "No client."
  · have hempty : ¬ EndsInPrompt (Utf8.encode "") := by decide
    have hjoin := not_endsInPrompt_join hempty
      (registry.devices.map fun device => device.text ++ "\n") (by simp)
    simpa using hjoin

theorem CommandEntry.not_endsInPrompt_overview : ¬ EndsInPrompt (Utf8.encode overview) := by
  refine not_endsInPrompt_join (not_endsInPrompt_line _) _ ?_
  intro line hmem
  obtain ⟨entry, -, rfl⟩ := List.mem_map.mp hmem
  exact ⟨_, rfl⟩

theorem CommandFailure.not_endsInPrompt_message {failure : CommandFailure}
    (hfailure : failure.isOperatorFacing) : ¬ EndsInPrompt (Utf8.encode failure.message) := by
  cases failure with
  | badSyntax => decide
  | invalidValue => decide
  | rejected status =>
      obtain ⟨front, htext⟩ : ∃ front, status.text = front ++ ")" := ⟨_, rfl⟩
      rw [message_rejected, htext, ← String.append_assoc]
      exact not_endsInPrompt_append _ ")" 41 (by decide) (by decide)
  | unknownCommand keyword =>
      change ¬ EndsInPrompt (Utf8.encode "Unknown command. Type 'help' for help.")
      decide
  | output cause => simp [isOperatorFacing] at hfailure

theorem Outcome.endsInPrompt_text (registry : Registry) (outcome : Outcome) :
    EndsInPrompt (Utf8.encode (outcome.text registry)) := by
  rw [text, Utf8.encode_append]
  exact List.suffix_append _ _

/-! ## Activities on a working screen -/

/-- What is written is all that changes a screen. -/
theorem Chain.console_after {first last : Session η ω} {events : Trace}
    (chain : Chain Step first events last) : last.console = first.console.after events.output := by
  have hstart : first.console = first.console.after (Trace.output []) :=
    (Console.after_nil first.console).symm
  refine @Chain.keeps _ _ _ _ _ _
    (fun past session => session.console = first.console.after past.output) ?_ chain [] hstart
  intro past session events next hconsole hstep
  rw [Trace.output_append, Console.after_append, ← hconsole]
  have hquiet : events.output = [] → next.console = session.console →
      next.console = session.console.after events.output := by
    intro hnone hsame
    rw [hnone, Console.after_nil, hsame]
  cases hstep with
  | move hmove =>
      cases hmove with
      | tell hplain =>
          refine hquiet (Trace.output_cons_of_ne ?_ []) rfl
          rintro bytes rfl
          simp [Event.isPlain] at hplain
      | write text =>
          have houtput : Trace.output [.wrote (session.console.write (Utf8.encode text)).accepted] =
              session.console.clip (Utf8.encode text) := by
            rw [Trace.output_wrote, Console.write_accepted]
            exact List.append_nil _
          rw [houtput, Console.after_clip, ← Console.write_console]
      | resolve peer => exact hquiet (by split <;> rfl) rfl
      | _ => exact hquiet rfl rfl
  | _ => exact hquiet rfl rfl

/-- A screen without a limit stays as it is. -/
theorem Chain.console_eq {first last : Session η ω} {events : Trace}
    (chain : Chain Step first events last) (hroom : first.console.room = none) :
    last.console = first.console := by
  rw [chain.console_after, Console.after, hroom, Option.map_none, ← hroom]

theorem Travels.room_eq_none {activity : Activity (Session η ω) α} (h : Travels Step activity)
    {session : Session η ω} (hroom : session.console.room = none) :
    (activity session).session.console.room = none := by
  rw [(h session).console_eq hroom, hroom]

/-- On a screen without a limit, the activity takes the prompt from one state to the other. -/
def Leads (state : PromptState) (activity : Activity (Session η ω) α) (last : PromptState) : Prop :=
  ∀ session, session.console.room = none →
    state.follow (activity session).events = some last ∧
      (activity session).session.console.room = none

namespace Leads

variable {topics : List Topic} {state mid last : PromptState}

theorem pure (value : α) : Leads state (pure value : Activity (Session η ω) α) state := by
  intro session hroom
  exact ⟨rfl, hroom⟩

theorem bind {first : Activity (Session η ω) α} {next : α → Activity (Session η ω) β}
    (hfirst : Leads state first mid) (hnext : ∀ value, Leads mid (next value) last) :
    Leads state (first >>= next) last := by
  intro session hroom
  obtain ⟨hfront, hroom'⟩ := hfirst session hroom
  obtain ⟨hback, hroom''⟩ := hnext (first session).value _ hroom'
  refine ⟨?_, hroom''⟩
  rw [Activity.bind_events, PromptState.follow_append, hfront]
  exact hback

/-- What is not about the screen, nor about outcomes or lines, leaves the operator at the
prompt. -/
theorem quiet {activity : Activity (Session η ω) α} (htravels : Travels Step activity)
    (hconcerns : Concerns topics activity)
    (hquiet : ∀ topic ∈ topics, topic ∉ [.screen, .queue, .line]) :
    Leads shown activity shown := by
  intro session hroom
  refine ⟨PromptState.follow_shown fun event hmem => ?_, htravels.room_eq_none hroom⟩
  have htopic := hquiet _ (hconcerns session event hmem)
  cases event with
  | wrote bytes => simp [Event.topic] at htopic
  | popped outcome => simp [Event.topic] at htopic
  | lineTaken line => simp [Event.topic] at htopic
  | _ => exact ⟨fun hscreen => htopic (hscreen ▸ List.mem_cons_self), rfl⟩

/-- What belongs to an answer, and does not write, leaves the prompt as it is. -/
theorem still {activity : Activity (Session η ω) α} (htravels : Travels Step activity)
    (hconcerns : Concerns topics activity)
    (hanswering : topics ⊆ [.aside, .request, .stop, .link, .closing]) :
    Leads state activity state := by
  cases state with
  | shown =>
      refine quiet htravels (hconcerns.mono hanswering) (by decide)
  | owed =>
      intro session hroom
      refine ⟨PromptState.follow_owed fun event hmem => ?_, htravels.room_eq_none hroom⟩
      have htopic := hanswering (hconcerns session event hmem)
      cases event with
      | checked found => simp [Event.topic] at htopic
      | _ => simpa [Event.isAnswering] using htopic

variable (S : Setting η ω)

/-- A text that ends in a prompt pays it. -/
theorem write (text : String) : Leads owed (Session.write S text)
    (if EndsInPrompt (Utf8.encode text) then shown else owed) := by
  have hattend : Leads owed (Session.attend S) owed :=
    still (Travels.attend S).steps (Concerns.attend S) (by decide)
  refine hattend.bind fun _ => ?_
  intro session hroom
  refine ⟨?_, by simp [Console.write_working hroom, hroom]⟩
  simp [Console.write_working hroom, PromptState.follow_cons, PromptState.after,
    PromptState.follow_nil]

theorem flush : Leads state (Session.flush : Activity (Session η ω) _) state :=
  fun _ hroom => ⟨rfl, hroom⟩

theorem log (diagnostic : Diagnostic) : Leads state (Session.log S diagnostic) state :=
  still (Travels.log S _).steps (Concerns.log S _) (by decide)

theorem logFailure (diagnostic : IoFailure → Diagnostic) (result : Except IoFailure Unit) :
    Leads state (Session.logFailure S diagnostic result) state :=
  still (Travels.logFailure S _ _).steps (Concerns.logFailure S _ _) (by decide)

theorem writeFlushed (text : String) : Leads owed (Session.writeFlushed S text)
    (if EndsInPrompt (Utf8.encode text) then shown else owed) := by
  refine (write S text).bind fun result => ?_
  cases result with
  | ok _ => exact flush
  | error failure => exact pure _

theorem writeConsole (text : String) : Leads owed (Session.writeConsole S text)
    (if EndsInPrompt (Utf8.encode text) then shown else owed) :=
  (writeFlushed S text).bind fun _ => logFailure S _ _

/-- A text that does not end in a prompt leaves it owed. -/
theorem write_of_not {text : String} (htext : ¬ EndsInPrompt (Utf8.encode text)) :
    Leads owed (Session.write S text) owed := by
  have hwrite := write S text
  rwa [if_neg htext] at hwrite

theorem writeConsole_of_not {text : String} (htext : ¬ EndsInPrompt (Utf8.encode text)) :
    Leads owed (Session.writeConsole S text) owed := by
  have hwrite := writeConsole S text
  rwa [if_neg htext] at hwrite

theorem writeConsole_prompt : Leads owed (Session.writeConsole S prompt) shown := by
  have hwrite := writeConsole S prompt
  rwa [if_pos (show EndsInPrompt (Utf8.encode prompt) from List.suffix_rfl)] at hwrite

/-! ### Commands and outcomes -/

theorem shown_of_not {text : String} (htext : ¬ EndsInPrompt (Utf8.encode text)) :
    Leads owed (Command.shown S text) owed := by
  refine (write_of_not S htext).bind fun result => ?_
  cases result with
  | ok _ => exact pure _
  | error failure => exact pure _

theorem decode (path : Path) (text : String) : Leads state (Session.decode S path text) state :=
  still (Travels.decode S _ _).steps (Concerns.decode S _ _) (by decide)

theorem submitted (device : DeviceId) (request : Request) :
    Leads state (Command.submitted S device request) state :=
  still (Travels.submitted S _ _).steps (Concerns.submitted S _ _) (by decide)

/-- No command shows a prompt of its own. -/
theorem execute (command : Command) : Leads owed (command.execute S) owed := by
  cases command with
  | list =>
      intro session hroom
      exact shown_of_not S (Registry.not_endsInPrompt_listing _) session hroom
  | overview => exact shown_of_not S CommandEntry.not_endsInPrompt_overview
  | explain entry => exact shown_of_not S (not_endsInPrompt_line _)
  | submit device request => exact submitted S device request
  | write device path text isPartial =>
      refine (decode S path text).bind fun records => ?_
      split
      · exact submitted S _ _
      · exact pure _
  | create device path text =>
      refine (decode S path text).bind fun records => ?_
      split
      · exact submitted S _ _
      · exact pure _
  | quit =>
      have hraise : Concerns [.stop] (Session.raise .command .quit : Activity (Session η ω) Unit) :=
        Concerns.raise List.mem_cons_self
      exact (still (Travels.raise _ _ (by decide)).steps hraise (by decide)).bind fun _ => pure _

theorem showAnswer (answer : Except CommandFailure Reply) :
    Leads owed (showAnswer S answer) owed := by
  rcases answer with failure | reply
  · cases failure with
    | output cause => exact pure _
    | _ => exact write_of_not S (CommandFailure.not_endsInPrompt_message rfl)
  · cases reply with
    | accepted => exact write_of_not S (by decide)
    | done => exact pure _

/-- What answers a command leaves the prompt owed. -/
theorem dispatch (line : List Char) : Leads owed (dispatch S line) owed := by
  unfold DeviceConsole.dispatch
  split
  · exact pure _
  · rename_i typed _
    refine bind ?_ fun answer => (log S _).bind fun _ => showAnswer S answer
    cases typed.command with
    | error failure => exact pure _
    | ok command => exact execute S command

/-- An outcome is shown with a prompt behind it. -/
theorem deliver (outcome : Outcome) : Leads owed (deliver S outcome) shown := by
  intro session hroom
  have hunknown : Leads owed (logUnknown S outcome) owed :=
    still (Travels.logUnknown S outcome).steps (Concerns.logUnknown S outcome) (by decide)
  have hwrite := writeFlushed S (outcome.text (S.engine.registry session.engine))
  rw [if_pos (Outcome.endsInPrompt_text _ _)] at hwrite
  exact (hunknown.bind fun _ => hwrite) session hroom

/-- Every outcome that the engine hands over makes a prompt owed. -/
theorem popOutcome {session : Session η ω} (hroom : session.console.room = none) :
    shown.follow (Session.popOutcome S session).events =
        some (if (Session.popOutcome S session).value.isSome then owed else shown) ∧
      (Session.popOutcome S session).session.console.room = none := by
  refine ⟨?_, (Travels.popOutcome S).steps.room_eq_none hroom⟩
  let noted := Session.note S (.called .nextOutcome) session
  let answer := S.engine.nextOutcome noted.session.engine
  have hevents : (Session.popOutcome S session).events =
      noted.events ++ ((Session.heedAll S answer.remarks noted.session).events ++
        [.popped answer.value]) := by
    simp [Session.popOutcome, noted, answer]
  have hnoted : shown.follow noted.events = some shown := by
    rw [Session.note_events]
    split <;> rfl
  have hroom' : noted.session.console.room = none := (Travels.note S rfl).steps.room_eq_none hroom
  have hheed : Leads shown (Session.heedAll S answer.remarks) shown :=
    quiet (Travels.heedAll S _).steps (Concerns.heedAll S _) (by decide)
  have hheeded := (hheed noted.session hroom').1
  rw [hevents, PromptState.follow_append, hnoted, Option.bind_some, PromptState.follow_append,
    hheeded]
  change _ = some (if answer.value.isSome then owed else shown)
  cases answer.value with
  | none => rfl
  | some outcome => rfl

/-- Every line that is taken makes a prompt owed. -/
theorem takeLine {session : Session η ω} (hroom : session.console.room = none) :
    shown.follow (Session.takeLine session).events =
        some (if (Session.takeLine session).value.isSome then owed else shown) ∧
      (Session.takeLine session).session.console.room = none := by
  refine ⟨?_, Travels.takeLine.room_eq_none hroom⟩
  rw [Session.takeLine, Activity.bind_events, Activity.bind_value, Activity.modifyGet_run]
  cases session.input.takeLine.1 with
  | none => rfl
  | some line => rfl

/-- A drain shows every outcome with a prompt behind it. -/
theorem drain (patience : Nat) : Leads shown (Reactor.drain S patience) shown := by
  induction patience with
  | zero => exact pure _
  | succ patience ih =>
      intro session hroom
      obtain ⟨hpop, hroom'⟩ := popOutcome S hroom
      rw [Reactor.drain, Activity.bind_events, Activity.bind_session, PromptState.follow_append,
        hpop]
      cases (Session.popOutcome S session).value with
      | none => exact pure _ _ hroom'
      | some outcome =>
          exact ((deliver S outcome).bind fun _ => (logFailure S _ _).bind fun _ => ih) _ hroom'

end Leads

/-! ## Rounds -/

/-- On a screen without a limit, the activity leaves the operator at a prompt, unless the console
is asked to stop. -/
def Settles (state : PromptState) (activity : Activity (Session η ω) α) : Prop :=
  ∀ session, session.console.room = none →
    ∃ last, state.follow (activity session).events = some last ∧
      (last = owed → (activity session).session.token.isSome) ∧
      (activity session).session.console.room = none

theorem Leads.settles {state : PromptState} {activity : Activity (Session η ω) α}
    (h : Leads state activity shown) : Settles state activity := by
  intro session hroom
  obtain ⟨hfollow, hroom'⟩ := h session hroom
  exact ⟨shown, hfollow, nofun, hroom'⟩

namespace Settles

variable {state mid : PromptState}

/-- What comes in front of it may lead to where it starts. -/
theorem behind {first : Activity (Session η ω) α} {next : α → Activity (Session η ω) β}
    (hfirst : Leads state first mid) (hnext : ∀ value, Settles mid (next value)) :
    Settles state (first >>= next) := by
  intro session hroom
  obtain ⟨hfront, hroom'⟩ := hfirst session hroom
  obtain ⟨last, hback, hlast, hroom''⟩ := hnext (first session).value _ hroom'
  refine ⟨last, ?_, hlast, hroom''⟩
  rw [Activity.bind_events, PromptState.follow_append, hfront]
  exact hback

theorem get_bind {next : Session η ω → Activity (Session η ω) β}
    (hnext : ∀ seen, Settles state (next seen)) : Settles state (Activity.get >>= next) := by
  intro session
  exact hnext session session

/-- What is given back does not matter. -/
theorem returning {activity : Activity (Session η ω) α} (h : Settles state activity) (value : β) :
    Settles state (activity >>= fun _ => pure value) := by
  intro session hroom
  obtain ⟨last, hfollow, hlast, hroom'⟩ := h session hroom
  refine ⟨last, ?_, hlast, hroom'⟩
  rw [Activity.bind_events, PromptState.follow_append, hfollow]
  rfl

variable (S : Setting η ω)

/-- The prompt is shown again, unless the console is asked to stop. -/
theorem promptAgain : Settles owed (Reactor.promptAgain S) := by
  intro session hroom
  have hlook : Leads owed (Session.isRaised S) owed :=
    Leads.still (Travels.isRaised S).steps (Concerns.isRaised S) (by decide)
  obtain ⟨hfront, hroom'⟩ := hlook session hroom
  have hvalue : (Session.isRaised S session).value =
      (Session.isRaised S session).session.token.isSome := rfl
  rw [Reactor.promptAgain, Activity.bind_events, Activity.bind_session, PromptState.follow_append,
    hfront, hvalue]
  cases hraised : (Session.isRaised S session).session.token.isSome with
  | true =>
      obtain ⟨hback, hroom''⟩ :=
        Leads.writeConsole_of_not S (not_endsInPrompt_line "") _ hroom'
      exact ⟨owed, hback, fun _ => (Parting.writeConsole S _ hraised).2, hroom''⟩
  | false => exact (Leads.writeConsole_prompt S).settles _ hroom'

theorem runCommand (line : String) : Settles owed (Reactor.runCommand S line) := by
  unfold Reactor.runCommand
  dsimp only
  split
  · exact behind (Leads.dispatch S _) fun _ => behind (Leads.logFailure S _ _) fun _ =>
      behind (Leads.writeConsole_of_not S (not_endsInPrompt_line "")) fun _ => promptAgain S
  · exact promptAgain S

theorem serveLine (line : OperatorLine) : Settles owed (Reactor.serveLine S line) := by
  cases line with
  | command text => exact runCommand S text
  | overlong =>
      exact behind (Leads.log S _) fun _ =>
        behind (Leads.writeConsole_of_not S (CommandFailure.not_endsInPrompt_message rfl)) fun _ =>
          behind (Leads.writeConsole_of_not S (not_endsInPrompt_line "")) fun _ =>
            (Leads.writeConsole_prompt S).settles

theorem endInput : Settles shown (Reactor.endInput S) :=
  (Leads.still (Travels.endInput S).steps (Concerns.endInput S) (by decide)).settles

/-- Every line that is taken makes a prompt owed, and its answer ends with one. -/
theorem serveNextLine : Settles shown (Reactor.serveNextLine S) := by
  intro session hroom
  obtain ⟨htake, hroom'⟩ := Leads.takeLine hroom
  rw [Reactor.serveNextLine, Activity.bind_events, Activity.bind_session, PromptState.follow_append,
    htake]
  cases (Session.takeLine session).value with
  | some line => exact serveLine S line _ hroom'
  | none => exact endInput S _ hroom'

theorem serveInput (readable : Bool) : Settles shown (Reactor.serveInput S readable) := by
  have hfill : Leads shown (Session.fillInput S) shown :=
    Leads.quiet (Travels.fillInput S).steps (Concerns.fillInput S) (by decide)
  unfold Reactor.serveInput
  dsimp only
  split
  · exact behind hfill fun _ => behind (Leads.logFailure S _ _) fun _ => serveNextLine S
  · exact serveNextLine S

theorem serve (found : Except WaitFailure Readiness) : Settles shown (Reactor.serve S found) := by
  rcases found with failure | readiness
  · cases failure with
    | interrupted => exact (Leads.pure _).settles
    | failed cause => exact (Leads.log S _).settles
  · cases readiness with
    | socket =>
        exact (Leads.quiet (Travels.serveSocket S).steps (Concerns.serveSocket S)
          (by decide)).settles
    | input => exact serveInput S true
    | idle =>
        refine get_bind fun session => ?_
        split
        · exact serveInput S false
        · exact (Leads.pure _).settles

/-- A round leaves the operator at a prompt, or is the last one. -/
theorem iterate : Settles shown (Reactor.iterate S) := by
  have hstep : Leads shown (Reactor.stepEngine S) shown :=
    Leads.quiet (Travels.stepEngineOnce S).steps (Concerns.stepEngineOnce S) (by decide)
  have hwait : ∀ timeout, Leads shown (Session.wait S timeout) shown := fun timeout =>
    Leads.quiet (Travels.wait S timeout).steps (Concerns.wait S timeout) (by decide)
  refine behind hstep fun deadline => behind (Leads.drain S _) fun emptied => ?_
  split
  · exact get_bind fun session => behind (hwait _) fun found => (serve S found).returning true
  · exact (Leads.pure _).settles

end Settles

/-! ## The run -/

namespace Reactor

variable (S : Setting η ω)

/-- While a prompt is owed the console is asked to stop, and so the loop ends with its next
look. -/
theorem follow_loop (rounds : Nat) {session : Session η ω} {state : PromptState}
    (hroom : session.console.room = none) (howed : state = owed → session.token.isSome) :
    ∃ last, state.follow (loop S rounds session).events = some last := by
  induction rounds generalizing session state with
  | zero => exact ⟨state, rfl⟩
  | succ rounds ih =>
      have hattend : Leads state (Session.attend S) state :=
        Leads.still (Travels.attend S).steps (Concerns.attend S) (by decide)
      obtain ⟨hfront, hroom'⟩ := hattend session hroom
      rw [loop_succ_events, PromptState.follow_append, hfront, Option.bind_some,
        PromptState.follow_cons]
      cases htoken : (Session.attend S session).session.token with
      | some reason => exact ⟨state, by cases state <;> rfl⟩
      | none =>
          obtain rfl : state = shown := by
            cases state with
            | shown => rfl
            | owed =>
                have hasked := (Parting.attend S session (howed rfl)).2
                simp [htoken] at hasked
          obtain ⟨last, hround, hlast, hroom''⟩ :=
            Settles.iterate S (Session.check S session).session hroom'
          change ∃ last, shown.follow (_ ++ _) = some last
          rw [PromptState.follow_append, hround, Option.bind_some]
          split
          · exact ih hroom'' hlast
          · exact ⟨last, rfl⟩

/-- The prompt can be followed through every run. -/
theorem follow_run (rounds : Nat) {session : Session η ω} (hroom : session.console.room = none) :
    ∃ last, owed.follow (run S rounds session).events = some last := by
  obtain ⟨hstart, hroom'⟩ := Leads.writeConsole_prompt S session hroom
  obtain ⟨last, hloop⟩ := follow_loop S rounds hroom' (by simp : shown = owed → _)
  have hroom'' := (Travels.loop S rounds).room_eq_none hroom'
  rw [run_events]
  dsimp only
  rw [PromptState.follow_append, hstart, Option.bind_some, PromptState.follow_append, hloop]
  cases (loop S rounds (Session.writeConsole S prompt session).session).value with
  | none => exact ⟨last, rfl⟩
  | some reason =>
      have hshutdown : Leads last (shutdown S reason) last :=
        Leads.still (Travels.shutdown S reason).steps (Concerns.shutdown S reason) (by decide)
      rw [afterLoop_some_events]
      exact ⟨last, (hshutdown _ hroom'').1⟩

/-- The first text of a run is the prompt. -/
theorem head_texts_run (rounds : Nat) {session : Session η ω}
    (hroom : session.console.room = none) :
    (run S rounds session).events.texts.head? = some (Utf8.encode prompt) := by
  have hattend : (Session.attend S session).events.texts = [] := by
    rcases Session.attend_events S session with hnone | hone
    · rw [hnone]
      rfl
    · rw [hone]
      rfl
  have hclip : session.console.clip (Utf8.encode prompt) = Utf8.encode prompt := by
    rw [Console.clip, hroom]
  rw [run_events]
  dsimp only
  rw [Session.writeConsole, Activity.bind_events, Session.writeFlushed_events,
    Session.write_events, hclip, List.append_assoc, List.append_assoc, Trace.texts_append, hattend]
  rfl

end Reactor

/-- A run leaves the operator at a prompt. -/
structure LeavesPrompt (trace : Trace) : Prop where
  /-- The first text is the prompt. -/
  at_start : trace.texts.head? = some (Utf8.encode prompt)
  /-- Whenever the console goes on, and so at every wait, the screen ends in a prompt, and there
  were as many prompts as outcomes and lines, and the one at the start. -/
  at_prompt : ∀ (before after : Trace) (event : Event), trace = before ++ event :: after →
    event.goesOn → EndsInPrompt before.output ∧
      before.prompts = 1 + before.delivered.length + before.lines.length
  /-- Of what is written for an outcome or a line, the last text ends in a prompt, and no other
  does. -/
  last_text : ∀ (before during after : Trace) (occasion event : Event),
    trace = before ++ occasion :: (during ++ event :: after) → occasion.isOccasion →
      event.goesOn → (∀ other ∈ during, other.isOccasion = false) →
        ∃ front text, during.texts = front ++ [text] ∧ EndsInPrompt text ∧
          ∀ other ∈ front, ¬ EndsInPrompt other
  /-- Steps, waits, datagrams and reads write nothing, whatever becomes of them: once the console
  has gone on, what is written is written for an outcome or a line. -/
  silent : ∀ (before during after : Trace) (event : Event) (bytes : List UInt8),
    trace = before ++ event :: (during ++ .wrote bytes :: after) → event.goesOn →
      ∃ occasion ∈ event :: during, occasion.isOccasion

/-- A run on a screen that takes everything leaves the operator at a prompt. -/
theorem run_leavesPrompt (S : Setting η ω) (rounds : Nat) (session : Session η ω)
    (flushFails : Bool) :
    LeavesPrompt (Reactor.run S rounds { session with console := ⟨none, flushFails⟩ }).events := by
  have hroom : { session with console := ⟨none, flushFails⟩ }.console.room = none := rfl
  obtain ⟨last, hfollow⟩ := Reactor.follow_run S rounds hroom
  constructor
  · exact Reactor.head_texts_run S rounds hroom
  · intro before after event htrace hgoes
    exact PromptState.at_prompt (htrace ▸ hfollow) hgoes
  · intro before during after occasion event htrace hoccasion hgoes hquiet
    exact PromptState.last_text (htrace ▸ hfollow) hoccasion hgoes hquiet
  · intro before during after event bytes htrace hgoes
    exact PromptState.silent (htrace ▸ hfollow) hgoes

end DeviceConsole
