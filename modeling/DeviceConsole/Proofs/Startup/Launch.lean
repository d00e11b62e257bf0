import DeviceConsole.Launch
import DeviceConsole.Proofs.Reactor.Rounds
import DeviceConsole.Proofs.Startup.Stages
import Mathlib.Data.List.Basic
import Mathlib.Data.List.TakeWhile

/-!
# How a launch goes

A launch climbs the stages of its start one by one.  The beginning is reported first, the bound
socket behind the stages that lead to it, and a fault at the very end: nothing is done behind the
report of a failure, so that neither the socket nor the loop comes into it.  Without a fault the
loop runs, and only the log has a word behind it.

Main results:

- Definition {lit}`Launch.Course`: what happens in a launch, for each way in which it can go.
- Theorems {lit}`Launch.course_of_error` and {lit}`Launch.course_of_ok`: every start takes such a
  course.
- Theorem {lit}`launch_reportsStart`: what a launch reports, where it stops and how it ends.
-/

namespace DeviceConsole

variable {ω : Type}

/-! ## The first fault -/

namespace StartServices

variable (services : StartServices)

/-- The first stage with a fault, and its fault. -/
def firstFault? : Option (StartStage × StartFailure) :=
  StartStage.all.findSome? fun stage => (services.fault? stage).map (stage, ·)

/-- What is reported of the bound socket, when no stage up to it has a fault. -/
def success? : Option HealthReport :=
  if StartStage.untilBound.all fun stage => (services.fault? stage).isNone then
    services.started?.map fun started => .startSucceeded started.settings started.address
  else none

/-- The stages that a start enters: those in front of the first fault, and the one that has it. -/
def entered : List StartStage :=
  StartStage.all.takeWhile (fun stage => (services.fault? stage).isNone) ++
    (services.firstFault?.map (·.1)).toList

variable {services}

theorem firstFault?_of_none (h : ∀ stage ∈ StartStage.all, services.fault? stage = none) :
    services.firstFault? = none ∧ services.entered = StartStage.all := by
  have hfirst : services.firstFault? = none := by
    rw [firstFault?, List.findSome?_eq_none_iff]
    intro stage hmem
    rw [h stage hmem, Option.map_none]
  have hwhole : StartStage.all.takeWhile (fun stage => (services.fault? stage).isNone) =
      StartStage.all := by
    rw [List.takeWhile_eq_self_iff]
    intro stage hmem
    rw [h stage hmem, Option.isNone_none]
  refine ⟨hfirst, ?_⟩
  rw [entered, hwhole, hfirst]
  rfl

theorem firstFault?_of_split {before after : List StartStage} {stage : StartStage}
    {cause : StartFailure} (hsplit : StartStage.all = before ++ stage :: after)
    (hfault : services.fault? stage = some cause)
    (hnone : ∀ other ∈ before, services.fault? other = none) :
    services.firstFault? = some (stage, cause) ∧ services.entered = before ++ [stage] := by
  have hbefore : before.findSome? (fun other => (services.fault? other).map (other, ·)) = none := by
    rw [List.findSome?_eq_none_iff]
    intro other hmem
    rw [hnone other hmem, Option.map_none]
  have hfirst : services.firstFault? = some (stage, cause) := by
    rw [firstFault?, hsplit, List.findSome?_append, hbefore, Option.none_or, List.findSome?_cons,
      hfault, Option.map_some]
  have hwhole :
      StartStage.all.takeWhile (fun other => (services.fault? other).isNone) = before := by
    have hpos : ∀ other ∈ before, (services.fault? other).isNone = true := by
      intro other hmem
      rw [hnone other hmem, Option.isNone_none]
    rw [hsplit, List.takeWhile_append_of_pos hpos, List.takeWhile_cons, hfault]
    exact List.append_nil before
  refine ⟨hfirst, ?_⟩
  rw [entered, hwhole, hfirst]
  rfl

theorem success?_of_fault {stage : StartStage} {cause : StartFailure}
    (hmem : stage ∈ StartStage.untilBound) (hfault : services.fault? stage = some cause) :
    services.success? = none := by
  rw [success?, if_neg]
  intro hall
  have hnone := List.all_eq_true.mp hall stage hmem
  rw [hfault] at hnone
  cases hnone

theorem success?_of_fine {started : Started} (hleft : services.started? = some started)
    (hfine : ∀ stage ∈ StartStage.untilBound, services.fault? stage = none) :
    services.success? = some (.startSucceeded started.settings started.address) := by
  rw [success?, if_pos, hleft, Option.map_some]
  rw [List.all_eq_true]
  intro stage hmem
  rw [hfine stage hmem, Option.isNone_none]

theorem exists_of_failure? {ε α : Type} {outcome : Except ε α} (h : failure? outcome = none) :
    ∃ value, outcome = .ok value := by
  cases outcome with
  | ok value => exact ⟨value, rfl⟩
  | error cause => cases h

/-- Without a fault up to the bound socket there is one to report. -/
theorem isSome_success? (h : ∀ stage ∈ StartStage.untilBound, services.fault? stage = none) :
    services.success?.isSome := by
  have hload := h .load (by decide)
  have hhost := h .host (by decide)
  have haddress := h .localAddress (by decide)
  obtain ⟨settings, hsettings⟩ := exists_of_failure? (Option.map_eq_none_iff.mp hload)
  simp only [fault?, hsettings, Except.toOption, Option.bind_eq_bind, Option.bind_some,
    Option.map_eq_none_iff] at hhost haddress
  obtain ⟨requested, hrequested⟩ := exists_of_failure? hhost
  simp only [hrequested, Option.bind_some, Option.map_eq_none_iff] at haddress
  obtain ⟨address, hfound⟩ := exists_of_failure? haddress
  have hleft : services.started? = some ⟨settings, address⟩ := by
    simp [started?, hsettings, Except.toOption, hrequested, hfound]
  rw [success?_of_fine hleft h, Option.isSome_some]

/-- Only loading fails for want of settings. -/
theorem eq_load_of_fault? {stage : StartStage} {cause : LoadFailure}
    (h : services.fault? stage = some (.configuration cause)) : stage = .load := by
  cases stage with
  | load => rfl
  | _ => simp [fault?, Option.bind_eq_some_iff] at h

/-- When loading fails, that is the first fault. -/
theorem firstFault?_of_load {cause : StartFailure} (h : services.fault? .load = some cause) :
    services.firstFault? = some (.load, cause) := by
  rw [firstFault?, StartStage.all, StartStage.untilBound, List.cons_append, List.findSome?_cons, h]
  rfl

end StartServices

/-! ## Courses -/

namespace Launch

/-- What happens in a launch, for each way in which it can go. -/
inductive Course (services : StartServices) : Option StartFailure → Trace → Prop where
  /-- A fault up to the bound socket. -/
  | unbound {front : Trace} {before after : List StartStage} {stage : StartStage}
      {cause : StartFailure} (split : StartStage.untilBound = before ++ stage :: after)
      (climbed : Climbs before front) (fault : services.fault? stage = some cause)
      (fine : ∀ other ∈ before, services.fault? other = none) :
      Course services (some cause)
        (.reported .startBegins :: (front ++ [.entered stage, .reported (.startFailed cause)]))
  /-- A fault behind it. -/
  | bound {lower front : Trace} {before after : List StartStage} {stage : StartStage}
      {cause : StartFailure} {started : Started} (left : services.started? = some started)
      (climbed : Climbs StartStage.untilBound lower)
      (fine : ∀ other ∈ StartStage.untilBound, services.fault? other = none)
      (split : StartStage.behind = before ++ stage :: after)
      (further : Climbs before front) (fault : services.fault? stage = some cause)
      (finer : ∀ other ∈ before, services.fault? other = none) :
      Course services (some cause)
        (.reported .startBegins ::
          (lower ++ .reported (.startSucceeded started.settings started.address) ::
            (front ++ [.entered stage, .reported (.startFailed cause)])))
  /-- No fault, and then what does not concern the start. -/
  | ready {lower upper more : Trace} {started : Started} (left : services.started? = some started)
      (climbed : Climbs StartStage.untilBound lower) (further : Climbs StartStage.behind upper)
      (fine : ∀ other ∈ StartStage.all, services.fault? other = none)
      (foreign : ∀ event ∈ more, event.topic ≠ .startup) :
      Course services none
        (.reported .startBegins ::
          (lower ++ .reported (.startSucceeded started.settings started.address) ::
            (upper ++ more)))

/-! ## The parts of a launch -/

open Startup

variable (S : Setting OfflineEngine ω) (services : StartServices)

/-- What a start does behind the bootstrap: it makes the engine and climbs the last stages. -/
def arm (started : Started) : Part OfflineEngine ω Started := do
  registerInterrupt services
  also do
    Activity.modify fun session => { session with engine := ⟨started.settings.block⟩ }
    Session.log S (.consoleListening started.address)
  watch services
  return started

theorem ready_eq : ready S services = bootstrap S services >>= arm S services :=
  rfl

theorem follows_arm (started : Started) (session : Session OfflineEngine ω) :
    Follows services.fault? StartStage.behind ((arm S services started).run session) := by
  have haside : Concerns [.aside] (do
      Activity.modify fun session : Session OfflineEngine ω =>
        { session with engine := ⟨started.settings.block⟩ }
      Session.log S (.consoleListening started.address)) :=
    (Concerns.modify _).bind fun _ => Concerns.log S _
  exact follows_pass_bind (failure?_mapError _ _).symm fun _ _ =>
    follows_also_bind haside fun _ _ =>
      follows_pass_bind (failure?_mapError _ _).symm fun _ _ => follows_pure started

variable {S services} {session : Session OfflineEngine ω}

/-- A climb that fails is all that there is of a start. -/
theorem ready_of_climb_error {cause : StartFailure}
    (h : ((climb S services).run session).value = .error cause) :
    (ready S services).run session =
      ⟨.error cause, .reported .startBegins :: ((climb S services).run session).events,
        ((climb S services).run session).session⟩ := by
  have hboot : (bootstrap S services).run session =
      ⟨.error cause, .reported .startBegins :: ((climb S services).run session).events,
        ((climb S services).run session).session⟩ := by
    rw [bootstrap_eq, run_also_bind]
    simp only [Session.report, Activity.emit_run]
    rw [run_bind_of_error h]
    rfl
  rw [ready_eq, run_bind_of_error (congrArg Ran.value hboot), hboot]

/-- Behind a climb that is done, the bound socket is reported and the rest of the start is done. -/
theorem ready_of_climb {started : Started}
    (h : ((climb S services).run session).value = .ok started) :
    (ready S services).run session =
      let climbed := (climb S services).run session
      let armed := (arm S services started).run climbed.session
      ⟨armed.value, .reported .startBegins :: (climbed.events ++
        .reported (.startSucceeded started.settings started.address) :: armed.events),
        armed.session⟩ := by
  have hboot : (bootstrap S services).run session =
      ⟨.ok started,
        .reported .startBegins :: (((climb S services).run session).events ++
          [.reported (.startSucceeded started.settings started.address)]),
        ((climb S services).run session).session⟩ := by
    rw [bootstrap_eq, run_also_bind]
    simp only [Session.report, Activity.emit_run]
    rw [run_bind_of_ok h]
    rfl
  rw [ready_eq, run_bind_of_ok (congrArg Ran.value hboot), hboot]
  simp only [List.cons_append, List.append_assoc, List.nil_append]

/-- A start that fails takes a course that ends with the report of the fault. -/
theorem course_of_error {cause : StartFailure}
    (h : ((ready S services).run session).value = .error cause) :
    Course services (some cause) ((ready S services).run session).events := by
  have hclimb := follows_climb S services session
  cases hvalue : ((climb S services).run session).value with
  | error other =>
      rw [ready_of_climb_error hvalue] at h ⊢
      obtain rfl : other = cause := Except.error.inj h
      obtain ⟨front, stage, before, after, hevents, hsplit, hfront, hfault, hfine⟩ :=
        hclimb.failed other hvalue
      rw [hevents]
      exact .unbound hsplit hfront hfault hfine
  | ok started =>
      obtain ⟨hclimbed, hfine⟩ := hclimb.passed started hvalue
      have hleft := started?_of_climb S services hvalue
      rw [ready_of_climb hvalue] at h ⊢
      obtain ⟨front, stage, before, after, hevents, hsplit, hfront, hfault, hfiner⟩ :=
        (follows_arm S services started _).failed cause h
      simp only [hevents]
      exact .bound hleft hclimbed hfine hsplit hfront hfault hfiner

/-- A start that is done has climbed all stages, with the report of the bound socket in between. -/
theorem ready_of_ok {started : Started} (h : ((ready S services).run session).value = .ok started) :
    ∃ bound lower upper, services.started? = some bound ∧
      ((ready S services).run session).events = .reported .startBegins ::
        (lower ++ .reported (.startSucceeded bound.settings bound.address) :: upper) ∧
      Climbs StartStage.untilBound lower ∧ Climbs StartStage.behind upper ∧
      ∀ stage ∈ StartStage.all, services.fault? stage = none := by
  have hclimb := follows_climb S services session
  cases hvalue : ((climb S services).run session).value with
  | error other =>
      rw [ready_of_climb_error hvalue] at h
      cases h
  | ok bound =>
      obtain ⟨hclimbed, hfine⟩ := hclimb.passed bound hvalue
      rw [ready_of_climb hvalue] at h ⊢
      obtain ⟨harmed, hfiner⟩ := (follows_arm S services bound _).passed started h
      exact ⟨bound, _, _, started?_of_climb S services hvalue, rfl, hclimbed, harmed,
        List.forall_mem_append.mpr ⟨hfine, hfiner⟩⟩

/-- A start that is done takes the course without a fault, whatever comes behind it that does not
concern the start. -/
theorem course_of_ok {started : Started} (h : ((ready S services).run session).value = .ok started)
    {more : Trace} (hmore : ∀ event ∈ more, event.topic ≠ .startup) :
    Course services none (((ready S services).run session).events ++ more) := by
  obtain ⟨bound, lower, upper, hleft, hevents, hlower, hupper, hfine⟩ := ready_of_ok h
  rw [hevents]
  simp only [List.cons_append, List.append_assoc]
  exact .ready hleft hlower hupper hfine hmore

/-! ## What a course shows -/

namespace Course

variable {failure : Option StartFailure} {trace : Trace}

theorem begins (h : Course services failure trace) :
    ∃ rest, trace = .reported .startBegins :: rest := by
  cases h <;> exact ⟨_, rfl⟩

/-- The fault of a course is the first one. -/
theorem firstFault? {cause : StartFailure} (h : Course services (some cause) trace) :
    ∃ (front : Trace) (stage : StartStage) (after : List StartStage),
      trace = front ++ [.entered stage, .reported (.startFailed cause)] ∧
        StartStage.all = front.stages ++ stage :: after ∧
        (∀ event ∈ front, event.topic ∈ [.startup, .aside]) ∧
        services.fault? stage = some cause ∧
        ∀ other ∈ front.stages, services.fault? other = none := by
  cases h with
  | @unbound front before after stage _ split climbed fault fine =>
      have hstages : Trace.stages (.reported .startBegins :: front) = before :=
        climbed.stages_eq
      refine ⟨.reported .startBegins :: front, stage, after ++ StartStage.behind, rfl, ?_, ?_,
        fault, hstages ▸ fine⟩
      · rw [hstages, StartStage.all, split, List.append_assoc, List.cons_append]
      · exact List.forall_mem_cons.mpr ⟨by decide, climbed.topics⟩
  | @bound lower front before after stage _ started left climbed fine split further fault finer =>
      let success := HealthReport.startSucceeded started.settings started.address
      have hstages :
          Trace.stages (.reported .startBegins :: (lower ++ .reported success :: front)) =
            StartStage.untilBound ++ before := by
        rw [Trace.stages_reported, Trace.stages_append, Trace.stages_reported, climbed.stages_eq,
          further.stages_eq]
      refine ⟨.reported .startBegins :: (lower ++ .reported success :: front), stage, after, ?_, ?_,
        ?_, fault, hstages ▸ List.forall_mem_append.mpr ⟨fine, finer⟩⟩
      · simp only [List.cons_append, List.append_assoc, success]
      · rw [hstages, StartStage.all, split, List.append_assoc]
      · refine List.forall_mem_cons.mpr ⟨by decide, List.forall_mem_append.mpr ⟨climbed.topics, ?_⟩⟩
        exact List.forall_mem_cons.mpr ⟨List.mem_cons_self, further.topics⟩

/-- The stages that are entered are those up to the first fault. -/
theorem stages (h : Course services failure trace) : trace.stages = services.entered := by
  cases failure with
  | some cause =>
      obtain ⟨front, stage, after, rfl, hsplit, -, hfault, hfine⟩ := h.firstFault?
      rw [(StartServices.firstFault?_of_split hsplit hfault hfine).2, Trace.stages_append]
      rfl
  | none =>
      cases h with
      | @ready lower upper more started left climbed further fine foreign =>
          rw [(StartServices.firstFault?_of_none fine).2, Trace.stages_reported,
            Trace.stages_append, Trace.stages_reported, Trace.stages_append, climbed.stages_eq,
            further.stages_eq, (Trace.about_of_foreign foreign).1, List.append_nil]
          rfl

/-- The beginning is reported, then the bound socket if it comes to that, and then the first fault
if there is one. -/
theorem startReports (h : Course services failure trace) :
    trace.startReports = .startBegins :: (services.success?.toList ++
      (services.firstFault?.map fun fault => HealthReport.startFailed fault.2).toList) := by
  cases failure with
  | some cause =>
      obtain ⟨front, stage, after, -, hsplit, -, hfault, hfine⟩ := h.firstFault?
      rw [(StartServices.firstFault?_of_split hsplit hfault hfine).1]
      cases h with
      | @unbound front before after stage _ split climbed fault fine =>
          have hmem : stage ∈ StartStage.untilBound :=
            split ▸ List.mem_append_right before List.mem_cons_self
          rw [StartServices.success?_of_fault hmem fault, Trace.startReports_reported rfl,
            Trace.startReports_append, climbed.startReports_eq]
          rfl
      | @bound lower front _ after stage _ started left climbed fine split further fault finer =>
          rw [StartServices.success?_of_fine left fine, Trace.startReports_reported rfl,
            Trace.startReports_append, climbed.startReports_eq, Trace.startReports_reported rfl,
            Trace.startReports_append, further.startReports_eq]
          rfl
  | none =>
      cases h with
      | @ready lower upper more started left climbed further fine foreign =>
          have hlow (stage : StartStage) (hmem : stage ∈ StartStage.untilBound) :
              services.fault? stage = none := fine stage (List.mem_append_left _ hmem)
          rw [(StartServices.firstFault?_of_none fine).1, StartServices.success?_of_fine left hlow,
            Trace.startReports_reported rfl, Trace.startReports_append, climbed.startReports_eq,
            Trace.startReports_reported rfl, Trace.startReports_append, further.startReports_eq,
            (Trace.about_of_foreign foreign).2]
          rfl

/-- Where the bound socket is not reported again, only the stages up to it are entered before. -/
theorem stages_of_split {lower after front back : Trace} {other success : HealthReport}
    (climbed : Climbs StartStage.untilBound lower)
    (hsuccess : (Event.reported success).topic = .startup) (hbegins : success ≠ .startBegins)
    (hafter : .reported success ∉ after)
    (hsplit : .reported .startBegins :: (lower ++ .reported other :: after) =
      front ++ .reported success :: back) : front.stages = StartStage.untilBound := by
  have hfront : .reported success ∉ .reported .startBegins :: lower := by
    simp [hbegins, climbed.reported_notMem hsuccess]
  obtain ⟨rfl, -, -⟩ := (List.append_cons_inj_of_notMem hfront hafter).mp hsplit
  exact climbed.stages_eq

/-- The bound socket is reported between the stages that lead to it and those behind. -/
theorem place (h : Course services failure trace) {front back : Trace} {settings : Settings}
    {address : SocketAddress}
    (hsplit : trace = front ++ .reported (.startSucceeded settings address) :: back) :
    front.stages = StartStage.untilBound := by
  let success := HealthReport.startSucceeded settings address
  have hsuccess : (Event.reported success).topic = .startup := rfl
  cases h with
  | @unbound lower before after stage cause split climbed fault fine =>
      have hmem : Event.reported success ∈ front ++ .reported success :: back := by simp
      rw [← hsplit] at hmem
      exact absurd hmem (by simp [success, climbed.reported_notMem hsuccess])
  | @bound lower upper _ after stage _ started left climbed fine split further fault finer =>
      refine stages_of_split climbed hsuccess nofun ?_ hsplit
      simp [success, further.reported_notMem hsuccess]
  | @ready lower upper more started left climbed further fine foreign =>
      refine stages_of_split climbed hsuccess nofun ?_ hsplit
      rw [List.mem_append, not_or]
      exact ⟨further.reported_notMem hsuccess, fun hmem => foreign _ hmem hsuccess⟩

end Course

/-! ## Behind the start -/

/-- What goes to the log once the loop has ended. -/
def farewell (S : Setting OfflineEngine ω) :
    Option Termination → Activity (Session OfflineEngine ω) Unit
  | none => pure ()
  | some reason => Session.log S (.consoleStopped reason)

theorem concerns_farewell (reason? : Option Termination) :
    Concerns [.aside] (farewell S reason?) := by
  cases reason? with
  | none => exact Concerns.pure ()
  | some reason => exact Concerns.log S _

/-- The loop, and then the farewell. -/
theorem stages_of_ok {started : Started} (h : ((ready S services).run session).value = .ok started)
    (rounds : Nat) :
    (stages S services rounds).run session =
      let ready := (ready S services).run session
      let served := Reactor.run S rounds ready.session
      let told := farewell S served.value served.session
      ⟨.ok served.value, ready.events ++ (served.events ++ told.events), told.session⟩ := by
  rw [stages, run_bind_of_ok h, run_also_bind]
  cases hserved : (Reactor.run S rounds ((ready S services).run session).session).value with
  | none => simp only [hserved, farewell, ExceptT.run_pure, Activity.pure_run, List.append_nil]
  | some reason =>
      simp only [hserved, run_also_bind, farewell, ExceptT.run_pure, Activity.pure_run,
        List.append_nil]

/-- How a launch ends whose stages come to a value. -/
def endOf : Except StartFailure (Option Termination) → Option LaunchEnd
  | .error cause => some (.failed cause)
  | .ok reason? => reason?.map fun _ => .served

/-- A launch is its stages. -/
theorem run_eq (rounds : Nat) :
    run S services rounds session =
      let ran := (stages S services rounds).run session
      ⟨endOf ran.value, ran.events, ran.session⟩ := by
  rw [run, Activity.bind_run]
  obtain ⟨value, events, later⟩ := (stages S services rounds).run session
  cases value with
  | error cause => simp only [endOf, Activity.pure_run, List.append_nil]
  | ok reason? =>
      cases reason? <;>
        simp only [endOf, Activity.pure_run, List.append_nil, Option.map_none, Option.map_some]

/-- Where the start fails, the launch ends with it. -/
theorem run_of_error {cause : StartFailure}
    (h : ((ready S services).run session).value = .error cause) (rounds : Nat) :
    (run S services rounds session).value = some (.failed cause) ∧
      (run S services rounds session).events = ((ready S services).run session).events := by
  rw [run_eq, stages, run_bind_of_error h]
  exact ⟨rfl, rfl⟩

/-- Otherwise the loop runs, and only the log has a word behind it. -/
theorem run_of_ok {started : Started} (h : ((ready S services).run session).value = .ok started)
    (rounds : Nat) :
    let ready := (ready S services).run session
    let served := Reactor.run S rounds ready.session
    (run S services rounds session).value = served.value.map (fun _ => .served) ∧
      (run S services rounds session).events =
        ready.events ++ (served.events ++ (farewell S served.value served.session).events) := by
  rw [run_eq, stages_of_ok h]
  exact ⟨rfl, rfl⟩

/-! ## The whole launch -/

/-- What a launch reports, where it stops and how it ends. -/
structure Rule (S : Setting OfflineEngine ω) (services : StartServices) (rounds : Nat)
    (session : Session OfflineEngine ω) (ran : Ran (Session OfflineEngine ω) (Option LaunchEnd)) :
    Prop where
  /-- Before anything else the beginning is reported. -/
  begins : ∃ rest, ran.events = .reported .startBegins :: rest
  /-- The stages are entered in their order, up to the first that has a fault. -/
  stages : ran.events.stages = services.entered
  /-- The reports about the start are the beginning, the bound socket when no stage up to it has a
  fault, and the first fault when there is one. -/
  reports : ran.events.startReports = .startBegins :: (services.success?.toList ++
    (services.firstFault?.map fun fault => HealthReport.startFailed fault.2).toList)
  /-- Without a fault up to the bound socket there is an address to report. -/
  bound : (∀ stage ∈ StartStage.untilBound, services.fault? stage = none) →
    services.success?.isSome
  /-- The bound socket is reported before the stages behind it. -/
  place : ∀ (front back : Trace) settings address,
    ran.events = front ++ .reported (.startSucceeded settings address) :: back →
      front.stages = StartStage.untilBound
  /-- A fault is reported as soon as its stage is entered, and then nothing happens any more.  All
  that has happened belongs to the start or to the log: neither the socket nor the loop came in. -/
  fails : ∀ stage cause, services.firstFault? = some (stage, cause) →
    ran.value = some (.failed cause) ∧
      ∃ front, ran.events = front ++ [.entered stage, .reported (.startFailed cause)] ∧
        ∀ event ∈ front, event.topic ∈ [.startup, .aside]
  /-- Without a fault the loop runs, and the launch ends well when the loop does. -/
  serves : services.firstFault? = none →
    let ready := (ready S services).run session
    let served := Reactor.run S rounds ready.session
    ran.value = served.value.map (fun _ => .served) ∧
      ∃ back, ran.events = ready.events ++ (served.events ++ back) ∧
        (∀ event ∈ ready.events ++ back, event.topic ∈ [.startup, .aside]) ∧
        ∀ event ∈ served.events, event.topic ≠ .startup
  /-- A launch that ends does so well when loading failed or nothing did. -/
  status : ∀ ended, ran.value = some ended →
    (ended.status = .success ↔
      (services.fault? .load).isSome ∨ services.firstFault? = none)
  /-- There is a complaint when some stage failed, and only then. -/
  complaint : ∀ ended, ran.value = some ended →
    (ended.complaint.isSome ↔ services.firstFault?.isSome)

variable {rounds : Nat}

/-- A launch whose start fails is over with the report of the fault. -/
theorem rule_of_error {cause : StartFailure}
    (h : ((ready S services).run session).value = .error cause) :
    Rule S services rounds session (run S services rounds session) := by
  have hcourse := course_of_error h
  obtain ⟨hvalue, hevents⟩ := run_of_error h rounds
  obtain ⟨front, stage, after, htrace, hsplit, htopics, hfault, hfine⟩ := hcourse.firstFault?
  obtain ⟨hfirst, -⟩ := StartServices.firstFault?_of_split hsplit hfault hfine
  rw [← hevents] at hcourse htrace
  refine ⟨?_, hcourse.stages, hcourse.startReports, StartServices.isSome_success?,
    fun _ _ _ _ => hcourse.place, ?_, ?_, ?_, ?_⟩
  · exact hcourse.begins
  · intro other failure hother
    obtain ⟨rfl, rfl⟩ := Prod.mk.inj (Option.some.inj (hfirst.symm.trans hother))
    exact ⟨hvalue, front, htrace, htopics⟩
  · intro hnone
    rw [hnone] at hfirst
    cases hfirst
  · intro ended hended
    obtain rfl : .failed cause = ended := Option.some.inj (hvalue.symm.trans hended)
    rw [LaunchEnd.failed_status, hfirst]
    constructor
    · rintro ⟨load, rfl⟩
      obtain rfl := StartServices.eq_load_of_fault? hfault
      exact .inl (Option.isSome_of_eq_some hfault)
    · rintro (hload | hnone)
      · obtain ⟨other, hother⟩ := Option.isSome_iff_exists.mp hload
        have hsame := hfirst.symm.trans (StartServices.firstFault?_of_load hother)
        obtain ⟨-, rfl⟩ := Prod.mk.inj (Option.some.inj hsame)
        obtain ⟨load, -, rfl⟩ := Option.map_eq_some_iff.mp hother
        exact ⟨load, rfl⟩
      · cases hnone
  · intro ended hended
    obtain rfl : .failed cause = ended := Option.some.inj (hvalue.symm.trans hended)
    rw [hfirst]
    exact ⟨fun _ => rfl, fun _ => rfl⟩

/-- A launch whose start is done goes on with the loop. -/
theorem rule_of_ok {started : Started} (h : ((ready S services).run session).value = .ok started) :
    Rule S services rounds session (run S services rounds session) := by
  obtain ⟨hvalue, hevents⟩ := run_of_ok h rounds
  obtain ⟨bound, lower, upper, -, hready, hlower, hupper, hfine⟩ := ready_of_ok h
  obtain ⟨hfirst, -⟩ := StartServices.firstFault?_of_none hfine
  let first := ((ready S services).run session).session
  let served := Reactor.run S rounds first
  let told := (farewell S served.value served.session).events
  have hserved : ∀ event ∈ served.events, event.topic ≠ .startup :=
    fun event hmem => (Concerns.run S rounds).topic_ne hmem .startup (by decide)
  have htold : ∀ event ∈ told, event.topic ∈ [.aside] := concerns_farewell _ _
  have hforeign : ∀ event ∈ served.events ++ told, event.topic ≠ .startup := by
    refine List.forall_mem_append.mpr ⟨hserved, fun event hmem htopic => ?_⟩
    have haside := htold event hmem
    rw [htopic] at haside
    exact absurd haside (by decide)
  have hcourse := course_of_ok h hforeign
  rw [← hevents] at hcourse
  have hends (ended : LaunchEnd) (hended : (run S services rounds session).value = some ended) :
      ended = .served := by
    rw [hvalue, Option.map_eq_some_iff] at hended
    obtain ⟨_, -, hserved⟩ := hended
    exact hserved.symm
  refine ⟨hcourse.begins, hcourse.stages, hcourse.startReports, StartServices.isSome_success?,
    fun _ _ _ _ => hcourse.place, ?_, ?_, ?_, ?_⟩
  · intro stage cause hfault
    rw [hfirst] at hfault
    cases hfault
  · intro _
    refine ⟨hvalue, told, hevents, ?_, hserved⟩
    rw [hready]
    refine List.forall_mem_append.mpr ⟨List.forall_mem_cons.mpr ⟨by decide, ?_⟩, ?_⟩
    · exact List.forall_mem_append.mpr
        ⟨hlower.topics, List.forall_mem_cons.mpr ⟨List.mem_cons_self, hupper.topics⟩⟩
    · exact fun event hmem => List.mem_cons_of_mem _ (htold event hmem)
  · intro ended hended
    rw [hends ended hended]
    exact ⟨fun _ => .inr hfirst, fun _ => rfl⟩
  · intro ended hended
    rw [hends ended hended, hfirst]
    exact ⟨nofun, nofun⟩

end Launch

/-- What a launch reports, where it stops and how it ends. -/
theorem launch_reportsStart (S : Setting OfflineEngine ω) (services : StartServices) (rounds : Nat)
    (session : Session OfflineEngine ω) :
    Launch.Rule S services rounds session (Launch.run S services rounds session) := by
  cases h : ((Launch.ready S services).run session).value with
  | error cause => exact Launch.rule_of_error h
  | ok started => exact Launch.rule_of_ok h

end DeviceConsole
