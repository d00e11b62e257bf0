import DeviceConsole.Proofs.Command.EngineCalls
import DeviceConsole.Proofs.Reactor.Rounds

/-!
# The requests of a run

The engine has a text decoded, and is asked for something, on behalf of a line that is carried out
and at no other time.  What holds of the requests of every line therefore holds of every request
of a run.

Main results:

- Theorem {lit}`OnBehalf.serve`: what is served asks on behalf of lines.
- Theorem {lit}`Reactor.run_onBehalf`: a run does.
- Theorem {lit}`Reactor.exists_engineLine_of_run`: every request of a run is one of a line of the
  grammar.
-/

namespace DeviceConsole

variable {η ω α β : Type}

/-- A call that was made is among the events. -/
theorem Trace.mem_calls_iff {trace : Trace} {call : EngineCall} :
    call ∈ trace.calls ↔ .called call ∈ trace := by
  rw [Trace.calls, List.mem_filterMap]
  constructor
  · rintro ⟨event, hmem, hcall⟩
    cases event with
    | called other =>
        obtain rfl : other = call := Option.some.inj hcall
        exact hmem
    | _ => simp at hcall
  · intro hmem
    exact ⟨.called call, hmem, rfl⟩

/-- What the activity does about requests, it does for lines that it carries out. -/
def OnBehalf (S : Setting η ω) (activity : Activity (Session η ω) α) : Prop :=
  ∀ session, ∀ event ∈ (activity session).events, event.topic = .request →
    ∃ line served, event ∈ (dispatch S line served).events

namespace OnBehalf

variable (S : Setting η ω)

theorem of_concerns {topics : List Topic} {activity : Activity (Session η ω) α}
    (h : Concerns topics activity) (hrequest : .request ∉ topics) : OnBehalf S activity := by
  intro session event hmem htopic
  exact absurd htopic (h.topic_ne hmem .request hrequest)

theorem pure (value : α) : OnBehalf S (pure value : Activity (Session η ω) α) := by
  intro session event hmem
  simp at hmem

theorem get_bind {next : Session η ω → Activity (Session η ω) β}
    (hnext : ∀ value, OnBehalf S (next value)) : OnBehalf S (Activity.get >>= next) := by
  intro session event hmem
  rw [Activity.get_bind_run] at hmem
  exact hnext session session event hmem

theorem bind {first : Activity (Session η ω) α} {next : α → Activity (Session η ω) β}
    (hfirst : OnBehalf S first) (hnext : ∀ value, OnBehalf S (next value)) :
    OnBehalf S (first >>= next) := by
  intro session event hmem htopic
  rcases List.mem_append.mp hmem with hfront | hback
  · exact hfirst session event hfront htopic
  · exact hnext _ _ event hback htopic

/-- A line that is carried out is the occasion itself. -/
theorem dispatch (line : List Char) : OnBehalf S (dispatch S line) :=
  fun session _ hmem _ => ⟨line, session, hmem⟩

theorem runCommand (line : String) : OnBehalf S (Reactor.runCommand S line) := by
  have hprompt : OnBehalf S (Reactor.promptAgain S) :=
    of_concerns S (Concerns.promptAgain S) (by decide)
  unfold Reactor.runCommand
  dsimp only
  split
  · refine bind S (dispatch S _) fun result => ?_
    refine bind S (of_concerns S (Concerns.logFailure S _ result) (by decide)) fun _ => ?_
    exact bind S (of_concerns S (Concerns.writeConsole S _) (by decide)) fun _ => hprompt
  · exact hprompt

theorem serveNextLine : OnBehalf S (Reactor.serveNextLine S) := by
  refine bind S (of_concerns S Concerns.takeLine (by decide)) fun line => ?_
  cases line with
  | none => exact of_concerns S (Concerns.endInput S) (by decide)
  | some line =>
      cases line with
      | command text => exact runCommand S text
      | overlong => exact of_concerns S (Concerns.serveOverlong S) (by decide)

theorem serveInput (readable : Bool) : OnBehalf S (Reactor.serveInput S readable) := by
  unfold Reactor.serveInput
  dsimp only
  split
  · refine bind S (of_concerns S (Concerns.fillInput S) (by decide)) fun result => ?_
    exact bind S (of_concerns S (Concerns.logFailure S _ result) (by decide)) fun _ =>
      serveNextLine S
  · exact serveNextLine S

/-- What is served asks on behalf of lines: datagrams and failed waits ask for nothing. -/
theorem serve (found : Except WaitFailure Readiness) : OnBehalf S (Reactor.serve S found) := by
  rcases found with failure | readiness
  · cases failure with
    | interrupted => exact pure S _
    | failed cause => exact of_concerns S (Concerns.log S _) (by decide)
  · cases readiness with
    | socket => exact of_concerns S (Concerns.serveSocket S) (by decide)
    | input => exact serveInput S true
    | idle =>
        refine get_bind S fun session => ?_
        split
        · exact serveInput S false
        · exact pure S _

end OnBehalf

namespace Reactor

variable (S : Setting η ω)

/-- Whatever a run does about requests, it does for a line that it carries out. -/
theorem run_onBehalf (rounds : Nat) : OnBehalf S (run S rounds) := by
  intro session event hmem htopic
  obtain ⟨before, after, hsplit⟩ := List.append_of_mem hmem
  have hlook : event.topic ≠ .look := by
    rw [htopic]
    decide
  obtain ⟨rest, next, -, -, hplace⟩ := run_split S rounds session hsplit hlook
  obtain ⟨found, served, front, hserved⟩ := hplace.served S (by rw [htopic]; decide)
  exact OnBehalf.serve S found served event (by simp [hserved]) htopic

/-- What the engine is asked for in a run, it is asked for a line of the grammar. -/
theorem exists_engineLine_of_run {rounds : Nat} {session : Session η ω} {device : DeviceId}
    {request : Request}
    (hcall : .submit device request ∈ (run S rounds session).events.calls) :
    ∃ line command engine, EngineLine (Words.ofLine line) command ∧
      .submit device request ∈ command.engineCalls S engine := by
  have hmem := Trace.mem_calls_iff.mp hcall
  obtain ⟨line, served, hserved⟩ := run_onBehalf S rounds session _ hmem rfl
  obtain ⟨command, hline, hasked⟩ :=
    exists_engineLine_of_mem_calls S served (Trace.mem_calls_iff.mpr hserved)
  exact ⟨line, command, served.engine, hline, hasked⟩

end Reactor

end DeviceConsole
