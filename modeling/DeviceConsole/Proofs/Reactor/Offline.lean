import DeviceConsole.Proofs.Command.Offline
import DeviceConsole.Proofs.Reactor.Outcomes
import DeviceConsole.Proofs.Reactor.Stopping

/-!
# Runs without a protocol

A console without a protocol sends nothing, and has nothing to show but the replies to the
operator's lines.  So what is on its screen is known from the lines that it serves, and from whether
it was asked to stop by the time each one was answered; which datagrams arrive, and in which rounds,
makes no difference.

Main results:

- Theorem {lit}`Concerns.shutdown_of_isSilent` and its siblings: what a run does with an engine that
  sends nothing.
- Definition {lit}`Reactor.servings`: the lines that a run serves, each with whether the console was
  asked to stop once it was answered.
- Theorem {lit}`run_offline`: what a run leaves, and that nothing else decides what is written.
-/

namespace DeviceConsole

variable {η ω α β : Type}

/-! ## Engines that send nothing -/

/-- A dialogue in which nothing is sent. -/
inductive Dialogue.IsSilent : Dialogue α → Prop where
  | finish (value : α) : IsSilent (.finish value)
  | remark (said : Remark) {rest : Dialogue α} (hrest : IsSilent rest) :
      IsSilent (.remark said rest)

/-- An engine that never sends anything. -/
structure Engine.IsSilent (engine : Engine η) : Prop where
  step : ∀ state, (engine.step state).IsSilent
  handlePacket : ∀ state connection bytes, (engine.handlePacket state connection bytes).IsSilent
  close : ∀ state, (engine.close state).IsSilent

theorem OfflineEngine.isSilent : engine.IsSilent where
  step _ := .finish _
  handlePacket _ _ _ := .remark _ (.finish _)
  close _ := .remark _ (.finish _)

namespace Concerns

theorem sends_eq_nil {topics : List Topic} {activity : Activity (Session η ω) α}
    (h : Concerns topics activity) (session : Session η ω) (hlink : .link ∉ topics) :
    (activity session).events.sends = [] := by
  rw [Trace.sends, List.filterMap_eq_nil_iff]
  intro event hmem
  split
  · exact absurd rfl (h.topic_ne hmem .link hlink)
  · rfl

theorem delivered_eq_nil {topics : List Topic} {activity : Activity (Session η ω) α}
    (h : Concerns topics activity) (session : Session η ω) (hqueue : .queue ∉ topics) :
    (activity session).events.delivered = [] := by
  rw [Trace.delivered, List.filterMap_eq_nil_iff]
  intro event hmem
  split
  · exact absurd rfl (h.topic_ne hmem .queue hqueue)
  · rfl

variable {S : Setting η ω}

theorem converse_of_isSilent {dialogue : Dialogue α} (h : dialogue.IsSilent) :
    Concerns [.aside] (Session.converse S dialogue) := by
  induction h with
  | finish value => exact pure value
  | remark said hrest ih => exact bind (heed S said) fun _ => ih

variable (h : S.engine.IsSilent)

include h

theorem stepEngine_of_isSilent : Concerns [.aside, .step] (Reactor.stepEngine S) := by
  have hstep : Concerns [.aside, .step] (Session.stepEngine S) := by
    refine bind (note S) fun _ => bind get fun session => ?_
    refine bind ((converse_of_isSilent (h.step _)).mono (by decide)) fun answer => ?_
    exact bind (modify _) fun _ => bind (emit (by simp [Event.topic])) fun _ => pure _
  refine bind hstep fun answer => ?_
  cases answer with
  | ok duration => exact pure _
  | error failure => exact bind ((log S _).mono (by decide)) fun _ => pure _

theorem acceptDatagram_of_isSilent (datagram : Datagram) :
    Concerns [.aside, .socket] (Reactor.acceptDatagram S datagram) := by
  have hhanded (connection : Connection) (bytes : List UInt8) :
      Concerns [.aside, .socket] (Session.handlePacket S connection bytes) := by
    refine bind (note S) fun _ => bind get fun session => ?_
    exact bind ((converse_of_isSilent (h.handlePacket _ _ _)).mono (by decide)) fun _ => modify _
  refine bind ((log S _).mono (by decide)) fun _ => bind ((log S _).mono (by decide)) fun _ =>
    bind (modifyGet _) fun resolved => ?_
  split
  · exact bind (emit (by simp [Event.topic])) fun _ => hhanded _ _
  · exact hhanded _ _

theorem serveSocket_of_isSilent : Concerns [.aside, .socket] (Reactor.serveSocket S) := by
  refine bind (receive S) fun answer => ?_
  cases answer with
  | error failure =>
      dsimp only
      split
      · exact (log S _).mono (by decide)
      · exact pure _
  | ok datagram =>
      dsimp only
      split
      · exact emit (by simp [Event.topic])
      · exact acceptDatagram_of_isSilent h datagram

/-- Nothing is sent on the way out either. -/
theorem shutdown_of_isSilent (reason : Termination) :
    Concerns [.aside, .closing] (Reactor.shutdown S reason) := by
  have hclosed : Concerns [.aside, .closing] (Session.closeEngine S) := by
    refine bind (note S) fun _ => bind get fun session => ?_
    exact (converse_of_isSilent (h.close _)).mono (by decide)
  exact bind hclosed fun _ => bind (emit (by simp [Event.topic])) fun _ =>
    bind (emit (by simp [Event.topic])) fun _ => bind (emit (by simp [Event.topic])) fun _ =>
      bind (modifyGet _) fun _ => bind flush fun _ =>
        bind ((logFailure S _ _).mono (by decide)) fun _ => emit (by simp [Event.topic])

end Concerns

/-! ## Lines that are served -/

/-- A line that was served. -/
structure Serving where
  line : OperatorLine
  /-- Whether the console was asked to stop once the line was answered.  What is written behind a
  line that was too long does not depend on it. -/
  stopping : Bool
deriving DecidableEq

/-- What a console without a protocol writes for a line. -/
def Serving.text (fallbacks : Fallbacks) : Serving → String
  | ⟨.command line, stopping⟩ =>
      (if line = "" then "" else OfflineEngine.reply fallbacks line.toList ++ "\n") ++
        if stopping then "\n" else prompt
  | ⟨.overlong, _⟩ => CommandFailure.badSyntax.message ++ ("\n" ++ prompt)

namespace Reactor

variable (S : Setting η ω)

/-- Carries out a line of the operator's, up to the prompt behind it. -/
def answerLine (line : String) : Activity (Session η ω) Unit := do
  if line ≠ "" then
    Session.logFailure S .replyNotPrinted (← dispatch S line.toList)
    Session.writeConsole S "\n"

theorem runCommand_eq (line : String) :
    runCommand S line = answerLine S line >>= fun _ => promptAgain S := by
  unfold runCommand answerLine
  by_cases hempty : line = ""
  · simp [hempty]
  · simp [hempty]

/-- Whether the console is asked to stop once a line was answered. -/
def isStopping (session : Session η ω) : OperatorLine → Bool
  | .command line => (Session.isRaised S (answerLine S line session).session).value
  | .overlong => false

/-- The line that is served next. -/
def nextServing (session : Session η ω) : Option Serving :=
  let taken := Session.takeLine session
  taken.value.map fun line => ⟨line, isStopping S taken.session line⟩

/-- The line that is served when a wait has found something. -/
def servingFor (session : Session η ω) : Except WaitFailure Readiness → Option Serving
  | .ok .input =>
      let filled := Session.fillInput S session
      nextServing S (Session.logFailure S .inputFailed filled.value filled.session).session
  | .ok .idle => if session.input.hasLine then nextServing S session else none
  | _ => none

/-- The line that is served in a round. -/
def roundServing (session : Session η ω) : Option Serving :=
  let stepped := stepEngine S session
  let drained := drain S S.patience stepped.session
  if drained.value then
    let waited := Session.wait S (timeout drained.session.input.hasLine stepped.value)
      drained.session
    servingFor S waited.session waited.value
  else
    none

/-- The lines that are served in the rounds of a loop. -/
def loopServings : Nat → Session η ω → List Serving
  | 0, _ => []
  | rounds + 1, session =>
      let looked := Session.check S session
      match looked.value with
      | some _ => []
      | none =>
          let ran := iterate S looked.session
          (roundServing S looked.session).toList ++
            if ran.value then loopServings rounds ran.session else []

/-- The lines that are served in a run. -/
def servings (rounds : Nat) (session : Session η ω) : List Serving :=
  loopServings S rounds (Session.writeConsole S prompt session).session

end Reactor

/-! ## What is left without a protocol -/

/-- What an activity leaves that serves some lines, writes a text and reaches no device. -/
structure Isolated (lines : List OperatorLine) (text : String) (ran : Ran (Session η ω) α) :
    Prop where
  lines : ran.events.lines = lines
  output : ran.events.output = Utf8.encode text
  unaccepted : Utf8.encode "OK" ∉ ran.events.texts
  sends : ran.events.sends = []
  delivered : ran.events.delivered = []
  room : ran.session.console.room = none

theorem Trace.delivered_presentation (trace : Trace) :
    trace.presentation.delivered = trace.delivered := by
  refine filterMap_presentation (fun event hqueue _ => ?_) trace
  split
  · exact absurd rfl hqueue
  · rfl

namespace Isolated

variable {lines more : List OperatorLine} {text last : String} {session : Session η ω}

theorem bind {first : Activity (Session η ω) α} {next : α → Activity (Session η ω) β}
    (hfirst : Isolated lines text (first session))
    (hnext : Isolated more last (next (first session).value (first session).session)) :
    Isolated (lines ++ more) (text ++ last) ((first >>= next) session) where
  lines := by rw [Activity.bind_events, Trace.lines_append, hfirst.lines, hnext.lines]
  output := by
    rw [Activity.bind_events, Trace.output_append, hfirst.output, hnext.output, Utf8.encode_append]
  unaccepted := by
    rw [Activity.bind_events, Trace.texts_append, List.mem_append]
    exact not_or.mpr ⟨hfirst.unaccepted, hnext.unaccepted⟩
  sends := by
    rw [Activity.bind_events, Trace.sends_append, hfirst.sends, hnext.sends, List.append_nil]
  delivered := by
    have happend : ((first >>= next) session).events.delivered = (first session).events.delivered ++
        (next (first session).value (first session).session).events.delivered :=
      List.filterMap_append
    rw [happend, hfirst.delivered, hnext.delivered, List.append_nil]
  room := hnext.room

/-- What leaves no text may come first. -/
theorem behind {first : Activity (Session η ω) α} {next : α → Activity (Session η ω) β}
    (hfirst : Isolated [] "" (first session))
    (hnext : Isolated lines text (next (first session).value (first session).session)) :
    Isolated lines text ((first >>= next) session) := by
  simpa using hfirst.bind hnext

/-- A text may come from an activity that concerns the screen. -/
theorem of_screen {activity : Activity (Session η ω) α} {topics : List Topic}
    (h : Concerns topics activity) (htravels : Travels Step activity)
    (hroom : session.console.room = none)
    (hnone : ∀ topic ∈ [Topic.line, .link, .queue], topic ∉ topics)
    (houtput : (activity session).events.output = Utf8.encode text)
    (htexts : Utf8.encode "OK" ∉ (activity session).events.texts) :
    Isolated [] text (activity session) where
  lines := h.lines_eq_nil session (hnone .line (by simp))
  output := houtput
  unaccepted := htexts
  sends := h.sends_eq_nil session (hnone .link (by simp))
  delivered := h.delivered_eq_nil session (hnone .queue (by simp))
  room := htravels.room_eq_none hroom

theorem of_concerns {activity : Activity (Session η ω) α} {topics : List Topic}
    (h : Concerns topics activity) (htravels : Travels Step activity)
    (hroom : session.console.room = none)
    (hnone : ∀ topic ∈ [Topic.screen, .line, .link, .queue], topic ∉ topics) :
    Isolated [] "" (activity session) := by
  refine of_screen h htravels hroom (fun topic hmem => hnone topic (by simp_all)) ?_ ?_
  · rw [h.output_eq_nil session (hnone .screen (by simp)), Utf8.encode_empty]
  · rw [h.texts_eq_nil session (hnone .screen (by simp))]
    exact List.not_mem_nil

section

variable (S : Setting η ω) (hroom : session.console.room = none)

include hroom

theorem pure (value : α) : Isolated [] "" ((pure value : Activity (Session η ω) α) session) :=
  of_concerns (Concerns.pure value : Concerns [] _) (.pure value) hroom (by decide)

theorem log (diagnostic : Diagnostic) : Isolated [] "" (Session.log S diagnostic session) :=
  of_concerns (.log S _) (Travels.log S _).steps hroom (by decide)

theorem logFailure (diagnostic : IoFailure → Diagnostic) (result : Except IoFailure Unit) :
    Isolated [] "" (Session.logFailure S diagnostic result session) :=
  of_concerns (.logFailure S _ _) (Travels.logFailure S _ _).steps hroom (by decide)

theorem writeConsole (htext : text ≠ "OK") :
    Isolated [] text (Session.writeConsole S text session) := by
  have hclip : session.console.clip (Utf8.encode text) = Utf8.encode text := by
    rw [Console.clip, hroom]
  have htexts : (Session.writeConsole S text session).events.texts = [Utf8.encode text] := by
    rw [Session.writeConsole, Activity.bind_events, Trace.texts_append,
      Session.writeFlushed_events, (Session.write_texts S session text).1, hclip,
      (Concerns.logFailure S _ _).texts_eq_nil _ (by decide)]
    rfl
  refine of_screen (.writeConsole S text) (Travels.writeConsole S text).steps hroom (by decide)
    ?_ ?_
  · rw [Trace.output_eq_flatten, htexts]
    exact List.append_nil _
  · rw [htexts, List.mem_singleton]
    intro hok
    exact htext (Utf8.encode_injective hok).symm

/-- A drain of an engine that has no outcome shows none. -/
theorem drain (hidle : ∀ state, (S.engine.nextOutcome state).value = none) (n : Nat) :
    Isolated [] "" (Reactor.drain S n session) := by
  have hnone : S.engine.outcomes n session.engine = [] := by
    cases n with
    | zero => rfl
    | succ n => simp [Engine.outcomes, hidle]
  have hpresented := Reactor.presentation_drain S n session
  rw [hnone] at hpresented
  have htexts : (Reactor.drain S n session).events.texts = [] := by
    rw [← Trace.texts_presentation, hpresented]
    split <;> rfl
  have hdelivered : (Reactor.drain S n session).events.delivered = [] := by
    rw [← Trace.delivered_presentation, hpresented]
    split <;> rfl
  have hconcerns := Concerns.drain S n
  constructor
  · exact hconcerns.lines_eq_nil session (by decide)
  · rw [Trace.output_eq_flatten, htexts]
    rfl
  · rw [htexts]
    exact List.not_mem_nil
  · exact hconcerns.sends_eq_nil session (by decide)
  · exact hdelivered
  · exact (Travels.drain S n).steps.room_eq_none hroom

theorem takeLine :
    Isolated (Session.takeLine session).value.toList "" (Session.takeLine session) := by
  have hconcerns : Concerns [.line] (Session.takeLine : Activity (Session η ω) _) := .takeLine
  constructor
  · rw [Session.takeLine, Activity.bind_events, Activity.bind_value, Activity.modifyGet_run]
    cases session.input.takeLine.1 <;> rfl
  · rw [hconcerns.output_eq_nil session (by decide), Utf8.encode_empty]
  · rw [hconcerns.texts_eq_nil session (by decide)]
    exact List.not_mem_nil
  · exact hconcerns.sends_eq_nil session (by decide)
  · exact hconcerns.delivered_eq_nil session (by decide)
  · exact Travels.takeLine.room_eq_none hroom

end

end Isolated

/-! ## What is served -/

/-- What an activity leaves that serves some lines and writes nothing else. -/
def Serves (fallbacks : Fallbacks) (servings : List Serving) (ran : Ran (Session η ω) α) : Prop :=
  Isolated (servings.map (·.line)) (String.join (servings.map (·.text fallbacks))) ran

namespace Serves

variable {S : Setting OfflineEngine ω} {session : Session OfflineEngine ω}

/-- What serves nothing. -/
theorem of_nothing {fallbacks : Fallbacks} {ran : Ran (Session η ω) α} (h : Isolated [] "" ran) :
    Serves fallbacks [] ran :=
  h

theorem bind {fallbacks : Fallbacks} {front back : List Serving} {session : Session η ω}
    {first : Activity (Session η ω) α} {next : α → Activity (Session η ω) β}
    (hfirst : Serves fallbacks front (first session))
    (hnext : Serves fallbacks back (next (first session).value (first session).session)) :
    Serves fallbacks (front ++ back) ((first >>= next) session) := by
  simpa [Serves, String.join_append] using Isolated.bind hfirst hnext

theorem returning {fallbacks : Fallbacks} {servings : List Serving} {session : Session η ω}
    {activity : Activity (Session η ω) α} (h : Serves fallbacks servings (activity session))
    (value : β) : Serves fallbacks servings ((activity >>= fun _ => pure value) session) := by
  have hreturned : Serves fallbacks (servings ++ [])
      ((activity >>= fun _ => pure value) session) :=
    bind h (of_nothing (Isolated.pure h.room value))
  rwa [List.append_nil] at hreturned

variable (hengine : S.engine = OfflineEngine.engine) (hfallbacks : S.fallbacks.FacesOperator)
  (hroom : session.console.room = none)

include hroom

theorem promptAgain :
    Isolated [] (if (Session.isRaised S session).value then "\n" else prompt)
      (Reactor.promptAgain S session) := by
  have hlooked : Isolated [] "" (Session.isRaised S session) :=
    .of_concerns (.isRaised S) (Travels.isRaised S).steps hroom (by decide)
  refine hlooked.behind ?_
  split
  · exact .writeConsole S hlooked.room (by decide)
  · exact .writeConsole S hlooked.room (by decide)

include hengine hfallbacks

theorem answerLine (line : String) :
    Isolated [] (if line = "" then "" else OfflineEngine.reply S.fallbacks line.toList ++ "\n")
      (Reactor.answerLine S line session) := by
  unfold Reactor.answerLine
  by_cases hempty : line = ""
  · simpa [hempty] using Isolated.pure hroom ()
  · obtain ⟨houtput, htexts⟩ := dispatch_offline hengine hfallbacks hroom line.toList
    have hdispatched : Isolated [] (OfflineEngine.reply S.fallbacks line.toList)
        (dispatch S line.toList session) :=
      .of_screen (.dispatch S _) (Travels.dispatch S _).steps hroom (by decide) houtput htexts
    have hlogged := Isolated.logFailure S hdispatched.room .replyNotPrinted
      (dispatch S line.toList session).value
    simp only [ne_eq, hempty, not_false_eq_true, if_true, if_false]
    exact hdispatched.bind (hlogged.behind (.writeConsole S hlogged.room (by decide)))

/-- A line is answered with its reply, and a prompt or an empty line. -/
theorem serveLine (line : OperatorLine) :
    Isolated [] (Serving.text S.fallbacks ⟨line, Reactor.isStopping S session line⟩)
      (Reactor.serveLine S line session) := by
  cases line with
  | command line =>
      have hanswered := answerLine hengine hfallbacks hroom line
      rw [Reactor.serveLine, Reactor.runCommand_eq]
      exact hanswered.bind (promptAgain hanswered.room)
  | overlong =>
      have hlogged := Isolated.log S hroom .lineTooLong
      have hwritten := Isolated.writeConsole S hlogged.room
        (by decide : CommandFailure.badSyntax.message ≠ "OK")
      have hended := Isolated.writeConsole S hwritten.room (by decide : "\n" ≠ "OK")
      exact hlogged.behind (hwritten.bind (hended.bind
        (.writeConsole S hended.room (by decide : prompt ≠ "OK"))))

theorem serveNextLine :
    Serves S.fallbacks (Reactor.nextServing S session).toList
      (Reactor.serveNextLine S session) := by
  have htaken := Isolated.takeLine hroom
  unfold Reactor.serveNextLine Reactor.nextServing
  dsimp only
  cases hvalue : (Session.takeLine session).value with
  | none =>
      rw [hvalue] at htaken
      refine of_nothing (htaken.behind ?_)
      rw [hvalue]
      exact .of_concerns (.endInput S) (Travels.endInput S).steps htaken.room (by decide)
  | some line =>
      rw [hvalue] at htaken
      have hserved := serveLine hengine hfallbacks htaken.room line
      change Isolated ([line] ++ []) ("" ++ Serving.text S.fallbacks
        ⟨line, Reactor.isStopping S (Session.takeLine session).session line⟩) _
      refine htaken.bind ?_
      rw [hvalue]
      exact hserved

/-- What a wait has found is served. -/
theorem serve (found : Except WaitFailure Readiness) :
    Serves S.fallbacks (Reactor.servingFor S session found).toList
      (Reactor.serve S found session) := by
  have hsilent : S.engine.IsSilent := hengine ▸ OfflineEngine.isSilent
  rcases found with failure | readiness
  · refine of_nothing ?_
    cases failure with
    | interrupted => exact .pure hroom ()
    | failed cause => exact .log S hroom _
  · cases readiness with
    | socket =>
        exact of_nothing (.of_concerns (.serveSocket_of_isSilent hsilent)
          (Travels.serveSocket S).steps hroom (by decide))
    | input =>
        have hfilled : Isolated [] "" (Session.fillInput S session) :=
          .of_concerns (.fillInput S) (Travels.fillInput S).steps hroom (by decide)
        have hlogged := Isolated.logFailure S hfilled.room .inputFailed
          (Session.fillInput S session).value
        exact (of_nothing hfilled).bind ((of_nothing hlogged).bind
          (serveNextLine hengine hfallbacks hlogged.room))
    | idle =>
        change Serves _ _ ((if session.input.hasLine then Reactor.serveInput S false
          else pure ()) session)
        rw [Reactor.servingFor]
        by_cases hline : session.input.hasLine
        · rw [if_pos hline, if_pos hline]
          exact serveNextLine hengine hfallbacks hroom
        · rw [if_neg hline, if_neg hline]
          exact of_nothing (.pure hroom ())

/-- A round serves one line at most. -/
theorem iterate :
    Serves S.fallbacks (Reactor.roundServing S session).toList (Reactor.iterate S session) := by
  have hsilent : S.engine.IsSilent := hengine ▸ OfflineEngine.isSilent
  have hidle : ∀ state, (S.engine.nextOutcome state).value = none := by
    rw [hengine]
    intro state
    rfl
  have hstepped : Isolated [] "" (Reactor.stepEngine S session) :=
    .of_concerns (.stepEngine_of_isSilent hsilent) (Travels.stepEngineOnce S).steps hroom
      (by decide)
  have hdrained := Isolated.drain S hstepped.room hidle S.patience
  unfold Reactor.iterate Reactor.roundServing
  dsimp only
  refine (of_nothing hstepped).bind ((of_nothing hdrained).bind ?_)
  cases (Reactor.drain S S.patience (Reactor.stepEngine S session).session).value with
  | false => exact of_nothing (.pure hdrained.room false)
  | true =>
      rw [if_pos rfl, if_pos rfl, Activity.get_bind_run]
      let drained := (Reactor.drain S S.patience (Reactor.stepEngine S session).session).session
      let timeout := Reactor.timeout drained.input.hasLine (Reactor.stepEngine S session).value
      have hwaited : Isolated [] "" (Session.wait S timeout drained) :=
        .of_concerns (.wait S _) (Travels.wait S _).steps hdrained.room (by decide)
      have hserved := serve hengine hfallbacks hwaited.room (Session.wait S timeout drained).value
      exact (of_nothing hwaited).bind (hserved.returning true)

/-- A loop serves the lines of its rounds. -/
theorem loop (rounds : Nat) :
    Serves S.fallbacks (Reactor.loopServings S rounds session)
      (Reactor.loop S rounds session) := by
  induction rounds generalizing session with
  | zero => exact of_nothing (.pure hroom none)
  | succ rounds ih =>
      have hlooked : Isolated [] "" (Session.check S session) :=
        .of_concerns (.check S) (Travels.check S) hroom (by decide)
      unfold Reactor.loop Reactor.loopServings
      dsimp only
      refine (of_nothing hlooked).bind ?_
      cases hvalue : (Session.check S session).value with
      | some reason => exact of_nothing (.pure hlooked.room _)
      | none =>
          have hround := iterate hengine hfallbacks hlooked.room
          refine hround.bind ?_
          split
          · exact ih hround.room
          · exact of_nothing (.pure hround.room _)

/-- A run shows the prompt and then what it writes for the lines that it serves. -/
theorem run (rounds : Nat) :
    Isolated ((Reactor.servings S rounds session).map (·.line))
      (prompt ++ String.join ((Reactor.servings S rounds session).map (·.text S.fallbacks)))
      (Reactor.run S rounds session) := by
  have hsilent : S.engine.IsSilent := hengine ▸ OfflineEngine.isSilent
  have hprompted := Isolated.writeConsole S hroom (by decide : prompt ≠ "OK")
  let prompted := (Session.writeConsole S prompt session).session
  have hlooped : Serves S.fallbacks (Reactor.loopServings S rounds prompted)
      (Reactor.loop S rounds prompted) := loop hengine hfallbacks hprompted.room rounds
  have hended : Serves S.fallbacks (Reactor.loopServings S rounds prompted ++ [])
      ((Reactor.loop S rounds >>= Reactor.afterLoop S) prompted) := by
    refine hlooped.bind ?_
    cases (Reactor.loop S rounds prompted).value with
    | none => exact of_nothing (.pure hlooped.room none)
    | some reason =>
        have hshut : Isolated [] ""
            (Reactor.shutdown S reason (Reactor.loop S rounds prompted).session) :=
          .of_concerns (.shutdown_of_isSilent hsilent reason) (Travels.shutdown S reason).steps
            hlooped.room (by decide)
        exact (of_nothing hshut).returning (some reason)
  rw [List.append_nil] at hended
  rw [Reactor.run_eq]
  exact hprompted.bind hended

end Serves

/-! ## The run -/

/-- What a run leaves without a protocol. -/
structure RunsOffline (S : Setting OfflineEngine ω) (rounds : Nat)
    (session : Session OfflineEngine ω) : Prop where
  /-- No datagram goes out. -/
  sends : (Reactor.run S rounds session).events.sends = []
  /-- No device is registered, and the engine has no outcome to show. -/
  registry : S.engine.registry (Reactor.run S rounds session).session.engine = .empty
  delivered : (Reactor.run S rounds session).events.delivered = []
  /-- Nothing is said to have been accepted. -/
  unaccepted : Utf8.encode "OK" ∉ (Reactor.run S rounds session).events.texts
  replies : OfflineEngine.RepliesOffline S.fallbacks
  /-- What is written is the prompt, and behind each line its reply and a prompt, or an empty line
  when the console was asked to stop by then. -/
  lines : (Reactor.run S rounds session).events.lines =
    (Reactor.servings S rounds session).map (·.line)
  output : (Reactor.run S rounds session).events.output = Utf8.encode
    (prompt ++ String.join ((Reactor.servings S rounds session).map (·.text S.fallbacks)))

/-- A console without a protocol sends nothing and has only replies to show.  Two runs that serve
the same lines, and are asked to stop by the time the same ones are answered, write the same. -/
theorem run_offline (S : Setting OfflineEngine ω) (hengine : S.engine = OfflineEngine.engine)
    (hfallbacks : S.fallbacks.FacesOperator) (rounds : Nat) (session : Session OfflineEngine ω)
    (hroom : session.console.room = none) :
    RunsOffline S rounds session ∧
      ∀ {ψ : Type} (T : Setting OfflineEngine ψ) (more : Nat) (other : Session OfflineEngine ψ),
        T.engine = OfflineEngine.engine → T.fallbacks = S.fallbacks → other.console.room = none →
          Reactor.servings T more other = Reactor.servings S rounds session →
            (Reactor.run T more other).events.output =
              (Reactor.run S rounds session).events.output := by
  have hrun := Serves.run hengine hfallbacks hroom rounds
  constructor
  · exact {
      sends := hrun.sends
      registry := by rw [hengine]; rfl
      delivered := hrun.delivered
      unaccepted := hrun.unaccepted
      replies := OfflineEngine.repliesOffline hfallbacks
      lines := hrun.lines
      output := hrun.output }
  · intro ψ T more other hoffline hsame hwide hservings
    have hother := Serves.run hoffline (hsame ▸ hfallbacks) hwide more
    rw [hother.output, hrun.output, hservings, hsame]

/-- The operator asks for the devices, at once or after a datagram has come in. -/
theorem run_offline_shipped :
    let host : ScriptedHost := { ScriptedHost.idle with chunks := [.ok (Utf8.encode "list\n")] }
    let datagram : Datagram := ⟨.v4 ⟨10, 0, 0, 7⟩ 5683, [0x40, 0x02]⟩
    let quiet : Session OfflineEngine ScriptedHost := .start ⟨512⟩ host .working
    let busy : Session OfflineEngine ScriptedHost := .start ⟨1024⟩
      { host with polls := [⟨.ok .socket, false⟩], datagrams := [.ok datagram] } .working
    Fallbacks.standard.FacesOperator ∧
      Reactor.servings .shipped 2 busy = Reactor.servings .shipped 1 quiet ∧
      RunsOffline .shipped 1 quiet ∧
      (Reactor.run .shipped 2 busy).events.output = (Reactor.run .shipped 1 quiet).events.output ∧
      (Reactor.run .shipped 1 quiet).events.output = Utf8.encode "> No client.\n\n> " := by
  intro host datagram quiet busy
  have hsame : Reactor.servings .shipped 2 busy = Reactor.servings .shipped 1 quiet := by
    decide +kernel
  obtain ⟨hruns, halike⟩ := run_offline .shipped rfl Fallbacks.facesOperator_standard 1 quiet rfl
  refine ⟨Fallbacks.facesOperator_standard, hsame, hruns, ?_, ?_⟩
  · exact halike .shipped 2 busy rfl rfl rfl hsame
  · decide +kernel

end DeviceConsole
