import DeviceConsole.Proofs.Session.Topics
import DeviceConsole.Startup

/-!
# The stages of a start

A part of a start climbs some stages in their order.  Each stage is fine or has a fault, and the
first fault ends the part: the stage is the last one that is entered, and the report of its failure
is the last thing that happens.  Parts that climb one after the other climb all their stages.

Main results:

- Definition {lit}`StartServices.fault?`: what is wrong in a stage.
- Theorem {lit}`follows_pass_bind`: a stage, and then what follows it when it has no fault.
- Theorem {lit}`bootstrap_eq`: a bootstrap is a climb between two reports.
- Theorem {lit}`follows_climb`: up to the bound socket the stages are climbed in their order.
-/

namespace DeviceConsole

variable {η ω α β : Type}

/-! ## The stages and their faults -/

namespace StartStage

/-- The stages up to the bound socket and its address. -/
def untilBound : List StartStage :=
  [load, blockSize, host, logging, socket, localAddress]

/-- The stages behind them. -/
def behind : List StartStage :=
  [interrupts, readiness]

/-- All stages in their order. -/
def all : List StartStage :=
  untilBound ++ behind

end StartStage

/-- The failure that an outcome is, if it is one. -/
def failure? {ε : Type} : Except ε α → Option ε
  | .ok _ => none
  | .error cause => some cause

namespace StartServices

variable (services : StartServices)

/-- What is wrong in a stage.  A stage that needs the settings, or the address that they ask for,
has no fault of its own without them. -/
def fault? : StartStage → Option StartFailure
  | .load => (failure? services.settings).map .configuration
  | .blockSize => do
      let settings ← services.settings.toOption
      (failure? settings.checkBlockSize).map .validation
  | .host => do
      let settings ← services.settings.toOption
      (failure? settings.listenAddress).map .validation
  | .logging => do
      let settings ← services.settings.toOption
      (failure? (services.installLog settings)).map .telemetry
  | .socket => do
      let settings ← services.settings.toOption
      let requested ← settings.listenAddress.toOption
      (failure? (services.bind requested)).map .transport
  | .localAddress => do
      let settings ← services.settings.toOption
      let requested ← settings.listenAddress.toOption
      (failure? (services.localAddress requested)).map fun cause =>
        .transport ⟨.bind, requested, cause⟩
  | .interrupts => (failure? services.catchInterrupts).map .signal
  | .readiness => (failure? services.watch).map .poller

/-- The settings and the address of the socket, when there are both. -/
def started? : Option Started := do
  let settings ← services.settings.toOption
  let requested ← settings.listenAddress.toOption
  let address ← (services.localAddress requested).toOption
  return { settings, address }

end StartServices

/-! ## Climbing -/

/-- The stages that were entered. -/
def Trace.stages (trace : Trace) : List StartStage :=
  trace.filterMap fun
    | .entered stage => some stage
    | _ => none

/-- The reports about the start. -/
def Trace.startReports (trace : Trace) : List HealthReport :=
  trace.filterMap fun
    | .reported report => if (Event.reported report).topic = .startup then some report else none
    | _ => none

namespace Trace

variable (left right : Trace)

@[simp]
theorem stages_append : (left ++ right).stages = left.stages ++ right.stages :=
  List.filterMap_append

@[simp]
theorem startReports_append :
    (left ++ right).startReports = left.startReports ++ right.startReports :=
  List.filterMap_append

@[simp]
theorem stages_entered (stage : StartStage) (trace : Trace) :
    stages (.entered stage :: trace) = stage :: stages trace :=
  rfl

@[simp]
theorem stages_reported (report : HealthReport) (trace : Trace) :
    stages (.reported report :: trace) = stages trace :=
  rfl

@[simp]
theorem startReports_entered (stage : StartStage) (trace : Trace) :
    startReports (.entered stage :: trace) = startReports trace :=
  rfl

theorem startReports_reported {report : HealthReport}
    (htopic : (Event.reported report).topic = .startup) (trace : Trace) :
    startReports (.reported report :: trace) = report :: startReports trace := by
  simp only [startReports, List.filterMap_cons, htopic, if_true]

/-- The stages are entered at events about the start. -/
theorem stages_about : (left.about .startup).stages = left.stages := by
  refine filterMap_about (fun event htopic => ?_) left
  split
  · exact absurd rfl htopic
  · rfl

theorem startReports_about : (left.about .startup).startReports = left.startReports := by
  refine filterMap_about (fun event htopic => ?_) left
  split
  · exact if_neg htopic
  · rfl

/-- What does not concern the start enters no stage, and reports nothing about it. -/
theorem about_of_foreign {trace : Trace} (h : ∀ event ∈ trace, event.topic ≠ .startup) :
    trace.stages = [] ∧ trace.startReports = [] := by
  have habout : trace.about .startup = [] := by
    rw [about, List.filter_eq_nil_iff]
    exact fun event hmem => by simpa using h event hmem
  rw [← stages_about, ← startReports_about, habout]
  exact ⟨rfl, rfl⟩

end Trace

/-- A trace in which some stages are entered, and nothing else happens but for the log. -/
structure Climbs (stages : List StartStage) (trace : Trace) : Prop where
  about_eq : trace.about .startup = stages.map .entered
  topics : ∀ event ∈ trace, event.topic ∈ [.startup, .aside]

namespace Climbs

variable {stages more : List StartStage} {trace next : Trace}

theorem append (h : Climbs stages trace) (hnext : Climbs more next) :
    Climbs (stages ++ more) (trace ++ next) where
  about_eq := by rw [Trace.about_append, h.about_eq, hnext.about_eq, List.map_append]
  topics event hmem := by
    rcases List.mem_append.mp hmem with hfront | hback
    · exact h.topics event hfront
    · exact hnext.topics event hback

/-- The stages can be read off the trace. -/
theorem stages_eq (h : Climbs stages trace) : trace.stages = stages := by
  rw [← Trace.stages_about, h.about_eq, Trace.stages, List.filterMap_map]
  exact List.filterMap_some

theorem startReports_eq (h : Climbs stages trace) : trace.startReports = [] := by
  rw [← Trace.startReports_about, h.about_eq, Trace.startReports, List.filterMap_map,
    List.filterMap_eq_nil_iff]
  exact fun _ _ => rfl

/-- Nothing is reported about the start. -/
theorem reported_notMem (h : Climbs stages trace) {report : HealthReport}
    (htopic : (Event.reported report).topic = .startup) : .reported report ∉ trace := by
  intro hmem
  have habout : .reported report ∈ trace.about .startup :=
    List.mem_filter.mpr ⟨hmem, decide_eq_true htopic⟩
  rw [h.about_eq, List.mem_map] at habout
  obtain ⟨_, -, hevent⟩ := habout
  cases hevent

end Climbs

/-! ## Parts of a start -/

/-- How a part of a start goes.  It climbs its stages when none of them has a fault.  Otherwise it
climbs those in front of the first one that has, enters that one and ends with the report of the
fault. -/
structure Follows (fault? : StartStage → Option StartFailure) (stages : List StartStage)
    (ran : Ran (Session η ω) (Except StartFailure α)) : Prop where
  passed : ∀ value, ran.value = .ok value →
    Climbs stages ran.events ∧ ∀ stage ∈ stages, fault? stage = none
  failed : ∀ cause, ran.value = .error cause → ∃ front stage before after,
    ran.events = front ++ [.entered stage, .reported (.startFailed cause)] ∧
      stages = before ++ stage :: after ∧ Climbs before front ∧
      fault? stage = some cause ∧ ∀ other ∈ before, fault? other = none

namespace Startup

variable {fault? : StartStage → Option StartFailure} {stages more : List StartStage}
  {session : Session η ω}

section Run

variable {first : Part η ω α} {next : α → Part η ω β}

/-- What follows a part that was done runs behind it. -/
theorem run_bind_of_ok {value : α} (h : (first.run session).value = .ok value) :
    (first >>= next).run session =
      let rest := (next value).run (first.run session).session
      ⟨rest.value, (first.run session).events ++ rest.events, rest.session⟩ := by
  rw [ExceptT.run_bind, Activity.bind_run, h]

/-- Nothing follows a part that failed. -/
theorem run_bind_of_error {cause : StartFailure} (h : (first.run session).value = .error cause) :
    (first >>= next).run session =
      ⟨.error cause, (first.run session).events, (first.run session).session⟩ := by
  rw [ExceptT.run_bind, Activity.bind_run, h]
  simp

/-- What follows a stage without a fault runs behind it. -/
theorem run_pass_bind (stage : StartStage) (value : α) :
    (pass stage (.ok value) >>= next).run session =
      ⟨((next value).run session).value, .entered stage :: ((next value).run session).events,
        ((next value).run session).session⟩ := by
  rw [run_bind_of_ok (congrArg Ran.value (pass_of_ok stage value session)), pass_of_ok]
  rfl

/-- Nothing follows a stage with a fault. -/
theorem run_pass_bind_of_error (stage : StartStage) (cause : StartFailure) :
    (pass stage (.error cause) >>= next).run session =
      ⟨.error cause, [.entered stage, .reported (.startFailed cause)], session⟩ := by
  rw [run_bind_of_error (congrArg Ran.value (pass_of_error stage cause session)), pass_of_error]

end Run

/-- What follows something that cannot fail runs behind it. -/
theorem run_also_bind (activity : Activity (Session η ω) α) (next : α → Part η ω β)
    (session : Session η ω) :
    (also activity >>= next).run session =
      let rest := (next (activity session).value).run (activity session).session
      ⟨rest.value, (activity session).events ++ rest.events, rest.session⟩ := by
  rw [ExceptT.run_bind, also, ExceptT.run_lift, bind_map_left, Activity.bind_run]

/-- A part that has nothing to do is done. -/
theorem follows_pure (value : α) :
    Follows fault? [] ((pure value : Part η ω α).run session) := by
  rw [ExceptT.run_pure, Activity.pure_run]
  exact ⟨fun _ _ => ⟨⟨rfl, List.forall_mem_nil _⟩, nofun⟩, nofun⟩

/-- A stage, and then what follows it when it has no fault. -/
theorem follows_pass_bind {stage : StartStage} {outcome : Except StartFailure α}
    {next : α → Part η ω β} (hfault : fault? stage = failure? outcome)
    (hnext : ∀ value, outcome = .ok value → Follows fault? more ((next value).run session)) :
    Follows fault? (stage :: more) ((pass stage outcome >>= next).run session) := by
  cases outcome with
  | error cause =>
      rw [run_pass_bind_of_error]
      refine ⟨nofun, fun other hother => ?_⟩
      obtain rfl : cause = other := Except.error.inj hother
      exact ⟨[], stage, [], more, rfl, rfl, ⟨rfl, List.forall_mem_nil _⟩, hfault, nofun⟩
  | ok value =>
      have hentered : Climbs [stage] [.entered stage] :=
        ⟨rfl, fun event hmem => by rw [List.mem_singleton.mp hmem]; exact List.mem_cons_self⟩
      have hrest := hnext value rfl
      rw [run_pass_bind]
      constructor
      · intro result hresult
        obtain ⟨hclimbs, hnone⟩ := hrest.passed result hresult
        exact ⟨hentered.append hclimbs, List.forall_mem_cons.mpr ⟨hfault, hnone⟩⟩
      · intro cause hcause
        obtain ⟨front, broken, before, after, hevents, hmore, hclimbs, hbroken, hnone⟩ :=
          hrest.failed cause hcause
        exact ⟨.entered stage :: front, broken, stage :: before, after,
          congrArg (.entered stage :: ·) hevents, congrArg (stage :: ·) hmore,
          hentered.append hclimbs, hbroken, List.forall_mem_cons.mpr ⟨hfault, hnone⟩⟩

/-- What goes to the log only is no stage. -/
theorem follows_also_bind {activity : Activity (Session η ω) α} {next : α → Part η ω β}
    (haside : Concerns [.aside] activity)
    (hnext : ∀ value later, Follows fault? stages ((next value).run later)) :
    Follows fault? stages ((also activity >>= next).run session) := by
  have hquiet : Climbs [] (activity session).events :=
    ⟨haside.about_eq_nil session (by decide), fun event hmem => by
      rw [List.mem_singleton.mp (haside session event hmem)]
      decide⟩
  have hrest := hnext (activity session).value (activity session).session
  rw [run_also_bind]
  constructor
  · intro result hresult
    obtain ⟨hclimbs, hnone⟩ := hrest.passed result hresult
    exact ⟨hquiet.append hclimbs, hnone⟩
  · intro cause hcause
    obtain ⟨front, broken, before, after, hevents, hstages, hclimbs, hbroken, hnone⟩ :=
      hrest.failed cause hcause
    refine ⟨(activity session).events ++ front, broken, before, after, ?_, hstages,
      hquiet.append hclimbs, hbroken, hnone⟩
    rw [List.append_assoc, ← hevents]

/-! ## The bootstrap -/

theorem failure?_mapError {ε δ : Type} (outcome : Except ε α) (change : ε → δ) :
    failure? (outcome.mapError change) = (failure? outcome).map change := by
  cases outcome <;> rfl

theorem mapError_eq_ok {ε δ : Type} {outcome : Except ε α} {change : ε → δ} {value : α}
    (h : outcome.mapError change = .ok value) : outcome = .ok value := by
  cases outcome with
  | ok other => exact congrArg Except.ok (Except.ok.inj h)
  | error cause => cases h

/-- The stages up to the bound socket, without the reports around them. -/
def climb (S : Setting η ω) (services : StartServices) : Part η ω Started := do
  let settings ← pass .load (services.settings.mapError .configuration)
  pass .blockSize (settings.checkBlockSize.mapError .validation)
  let requested ← pass .host (settings.listenAddress.mapError .validation)
  pass .logging ((services.installLog settings).mapError .telemetry)
  pass .socket ((services.bind requested).mapError .transport)
  also (Session.log S (.socketBound requested))
  let address ← pass .localAddress
    ((services.localAddress requested).mapError fun cause => .transport ⟨.bind, requested, cause⟩)
  return { settings, address }

/-- A bootstrap is a climb between two reports. -/
theorem bootstrap_eq (S : Setting η ω) (services : StartServices) :
    bootstrap S services = (do
      also (Session.report .startBegins)
      let started ← climb S services
      also (Session.report (.startSucceeded started.settings started.address))
      return started) := by
  simp only [bootstrap, climb, bind_assoc, pure_bind]

variable (S : Setting η ω) (services : StartServices)

/-- Up to the bound socket the stages are climbed in their order. -/
theorem follows_climb (session : Session η ω) :
    Follows services.fault? StartStage.untilBound ((climb S services).run session) := by
  refine follows_pass_bind (failure?_mapError _ _).symm fun settings hsettings => ?_
  have hsettings := mapError_eq_ok hsettings
  refine follows_pass_bind ?_ fun _ _ => ?_
  · rw [failure?_mapError, StartServices.fault?, hsettings]
    rfl
  refine follows_pass_bind ?_ fun requested hrequested => ?_
  · rw [failure?_mapError, StartServices.fault?, hsettings]
    rfl
  have hrequested := mapError_eq_ok hrequested
  refine follows_pass_bind ?_ fun _ _ => ?_
  · rw [failure?_mapError, StartServices.fault?, hsettings]
    rfl
  refine follows_pass_bind ?_ fun _ _ => ?_
  · rw [failure?_mapError, StartServices.fault?, hsettings]
    simp [Except.toOption, hrequested]
  refine follows_also_bind (Concerns.log S _) fun _ later => ?_
  refine follows_pass_bind ?_ fun address _ => follows_pure _
  · rw [failure?_mapError, StartServices.fault?, hsettings]
    simp [Except.toOption, hrequested]

/-- What is behind a stage is done when the whole is, with what the stage has found. -/
theorem exists_of_pass_bind {stage : StartStage} {outcome : Except StartFailure α}
    {next : α → Part η ω β} {result : β}
    (h : ((pass stage outcome >>= next).run session).value = .ok result) :
    ∃ value, outcome = .ok value ∧ ((next value).run session).value = .ok result := by
  cases outcome with
  | error cause =>
      rw [run_pass_bind_of_error] at h
      cases h
  | ok value =>
      rw [run_pass_bind] at h
      exact ⟨value, rfl, h⟩

/-- A climb leaves the settings and the address of the socket. -/
theorem started?_of_climb {started : Started}
    (h : ((climb S services).run session).value = .ok started) :
    services.started? = some started := by
  obtain ⟨settings, hsettings, h⟩ := exists_of_pass_bind h
  obtain ⟨_, -, h⟩ := exists_of_pass_bind h
  obtain ⟨requested, hrequested, h⟩ := exists_of_pass_bind h
  obtain ⟨_, -, h⟩ := exists_of_pass_bind h
  obtain ⟨_, -, h⟩ := exists_of_pass_bind h
  rw [run_also_bind] at h
  obtain ⟨address, haddress, h⟩ := exists_of_pass_bind h
  obtain rfl : ({ settings, address } : Started) = started := Except.ok.inj h
  rw [StartServices.started?, mapError_eq_ok hsettings]
  simp [Except.toOption, mapError_eq_ok hrequested, mapError_eq_ok haddress]

end Startup

end DeviceConsole
