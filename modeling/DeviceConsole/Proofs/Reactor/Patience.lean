import DeviceConsole.Proofs.Reactor.Course

/-!
# Longer runs

How many rounds a run may have, and how many outcomes a drain may take, only cuts a run short.
A run that has stopped of itself is the same with more rounds and more patience, whatever the
engine and the host do.

Main results:

- Theorem {lit}`Reactor.drain_longer`: a drain that has come to its end takes nothing more.
- Theorem {lit}`Reactor.run_longer`: a run that has stopped is the same when it may go on for
  longer.
-/

namespace DeviceConsole

variable {η ω α : Type}

/-- The setting with other patience. -/
def Setting.patient (S : Setting η ω) (patience : Nat) : Setting η ω :=
  { S with patience }

/-! ## Activities that ask for no patience -/

section

variable (S : Setting η ω) (patience : Nat)

namespace Session

theorem heedAll_patient (remarks : List Remark) :
    heedAll (S.patient patience) remarks = heedAll S remarks := by
  induction remarks with
  | nil => rfl
  | cons remark rest ih =>
      rw [heedAll, heedAll, ih]
      rfl

theorem converse_patient (dialogue : Dialogue α) :
    converse (S.patient patience) dialogue = converse S dialogue := by
  induction dialogue with
  | finish value => rfl
  | remark said rest ih =>
      rw [converse, converse, ih]
      rfl
  | send connection datagram resume ih =>
      simp only [converse, ih]
      rfl

theorem stepEngine_patient : stepEngine (S.patient patience) = stepEngine S := by
  simp only [stepEngine, converse_patient]
  rfl

theorem handlePacket_patient (connection : Connection) (bytes : List UInt8) :
    handlePacket (S.patient patience) connection bytes = handlePacket S connection bytes := by
  simp only [handlePacket, converse_patient]
  rfl

theorem decode_patient (path : Path) (text : String) :
    decode (S.patient patience) path text = decode S path text := by
  simp only [decode, heedAll_patient]
  rfl

theorem submit_patient (device : DeviceId) (request : Request) :
    submit (S.patient patience) device request = submit S device request := by
  simp only [submit, heedAll_patient]
  rfl

theorem popOutcome_patient : popOutcome (S.patient patience) = popOutcome S := by
  simp only [popOutcome, heedAll_patient]
  rfl

theorem closeEngine_patient : closeEngine (S.patient patience) = closeEngine S := by
  simp only [closeEngine, converse_patient]
  rfl

end Session

theorem Command.execute_patient (command : Command) :
    command.execute (S.patient patience) = command.execute S := by
  cases command <;>
    simp only [execute, submitted, Session.decode_patient, Session.submit_patient] <;> rfl

theorem dispatch_patient (line : List Char) :
    dispatch (S.patient patience) line = dispatch S line := by
  simp only [dispatch, Command.attempt, Command.execute_patient]
  rfl

end

namespace Reactor

variable (S : Setting η ω)

theorem drain_patient (patience n : Nat) : drain (S.patient patience) n = drain S n := by
  induction n with
  | zero => rfl
  | succ n ih =>
      simp only [drain, Session.popOutcome_patient, ih]
      rfl

theorem serveSocket_patient (patience : Nat) :
    serveSocket (S.patient patience) = serveSocket S := by
  simp only [serveSocket, acceptDatagram, Session.handlePacket_patient]
  rfl

theorem serveNextLine_patient (patience : Nat) :
    serveNextLine (S.patient patience) = serveNextLine S := by
  have hline (line : OperatorLine) : serveLine (S.patient patience) line = serveLine S line := by
    cases line with
    | command text =>
        simp only [serveLine, runCommand, dispatch_patient]
        rfl
    | overlong => rfl
  simp only [serveNextLine, hline]
  rfl

theorem serveInput_patient (patience : Nat) (readable : Bool) :
    serveInput (S.patient patience) readable = serveInput S readable := by
  simp only [serveInput, serveNextLine_patient]
  rfl

theorem serve_patient (patience : Nat) (found : Except WaitFailure Readiness) :
    serve (S.patient patience) found = serve S found := by
  rcases found with failure | readiness
  · cases failure <;> rfl
  · cases readiness with
    | socket => exact serveSocket_patient S patience
    | input => exact serveInput_patient S patience true
    | idle =>
        simp only [serve, serveInput_patient]

/-- A round with other patience is the same but for its drain. -/
theorem iterate_patient (patience : Nat) : iterate (S.patient patience) = (do
    let deadline ← stepEngine S
    if ← drain S patience then
      let hasLine := (← Activity.get).input.hasLine
      serve S (← Session.wait S (timeout hasLine deadline))
      return true
    else
      return false) := by
  have hstep : stepEngine (S.patient patience) = stepEngine S := by
    simp only [stepEngine, Session.stepEngine_patient]
    rfl
  simp only [iterate, hstep, drain_patient, serve_patient]
  rfl

theorem shutdown_patient (patience : Nat) (reason : Termination) :
    shutdown (S.patient patience) reason = shutdown S reason := by
  simp only [shutdown, Session.closeEngine_patient]
  rfl

/-! ## Runs that have stopped -/

/-- A drain that has come to its end takes nothing more. -/
theorem drain_longer {n more : Nat} {session : Session η ω} (hmore : n ≤ more)
    (hfinished : (drain S n session).value = true) : drain S more session = drain S n session := by
  induction n generalizing session more with
  | zero => simp [drain] at hfinished
  | succ n ih =>
      obtain ⟨more, rfl⟩ : ∃ rest, more = rest + 1 := ⟨more - 1, by omega⟩
      rw [drain, Activity.bind_value] at hfinished
      rw [drain, drain, Activity.bind_run, Activity.bind_run]
      cases hvalue : (Session.popOutcome S session).value with
      | none => rfl
      | some outcome =>
          rw [hvalue] at hfinished
          have hrest := ih (Nat.le_of_succ_le_succ hmore) hfinished
          simp only [Activity.bind_run, hrest]

/-- A finished round is the same with more patience. -/
theorem iterate_longer {patience : Nat} {session : Session η ω} (hmore : S.patience ≤ patience)
    (hfinished : (iterate S session).value = true) :
    iterate (S.patient patience) session = iterate S session := by
  have hdrained : (drain S S.patience (stepEngine S session).session).value = true := by
    rw [← iterate_value]
    exact hfinished
  rw [iterate_patient, iterate, Activity.bind_run, Activity.bind_run]
  simp only [Activity.bind_run, drain_longer S hmore hdrained]

/-- A loop that has found a reason to stop does the same when it may go on for longer. -/
theorem loop_longer {patience rounds more : Nat} {session : Session η ω}
    (hpatience : S.patience ≤ patience) (hmore : rounds ≤ more)
    (hstopped : (loop S rounds session).value.isSome) :
    loop (S.patient patience) more session = loop S rounds session := by
  induction rounds generalizing session more with
  | zero => simp [loop] at hstopped
  | succ rounds ih =>
      obtain ⟨more, rfl⟩ : ∃ rest, more = rest + 1 := ⟨more - 1, by omega⟩
      have hcheck : Session.check (S.patient patience) = Session.check S := rfl
      rw [loop_succ_value] at hstopped
      rw [loop, loop, hcheck, Activity.bind_run, Activity.bind_run, Session.check_value]
      cases hreason : (Session.attend S session).session.token with
      | some reason => rfl
      | none =>
          rw [hreason] at hstopped
          dsimp only at hstopped
          cases hvalue : (iterate S (Session.check S session).session).value with
          | false => simp [hvalue] at hstopped
          | true =>
              rw [hvalue, if_pos rfl] at hstopped
              have hround := iterate_longer S hpatience hvalue
              have hrest := ih (Nat.le_of_succ_le_succ hmore) hstopped
              simp only [Activity.bind_run, hround, hvalue, if_true, hrest]

/-- A run that has stopped is the same when it may go on for longer. -/
theorem run_longer {patience rounds more : Nat} {session : Session η ω}
    (hpatience : S.patience ≤ patience) (hmore : rounds ≤ more)
    (hstopped : (run S rounds session).value.isSome) :
    run (S.patient patience) more session = run S rounds session := by
  have hprompt : Session.writeConsole (S.patient patience) prompt = Session.writeConsole S prompt :=
    rfl
  rw [run_value] at hstopped
  have hloop := loop_longer S hpatience hmore hstopped
  rw [run, run, hprompt, Activity.bind_run, Activity.bind_run]
  simp only [Activity.bind_run, hloop]
  cases (loop S rounds (Session.writeConsole S prompt session).session).value with
  | none => rfl
  | some reason => simp only [shutdown_patient]

end Reactor

end DeviceConsole
