import DeviceConsole.Session.Event

/-!
# Activities

An activity changes a session, causes events and has a value.  Activities follow each
other: the events of two in a row are the events of the first and then those of the
second.

Main results:

- Theorem {lit}`bind_events`: events are put in a row.
- Theorem {lit}`bind_assoc`: activities may be grouped from either end.
-/

namespace DeviceConsole

/-- What an activity leaves: its value, its events in order and the session after it. -/
structure Ran (σ α : Type) where
  value : α
  events : Trace
  session : σ

/-- An activity on sessions of type {lit}`σ`. -/
def Activity (σ α : Type) : Type :=
  σ → Ran σ α

namespace Activity

variable {σ α β γ : Type}

/-- The activity that only has a value. -/
protected def pure (value : α) : Activity σ α := fun session =>
  ⟨value, [], session⟩

/-- An activity and then another that depends on the value of the first. -/
protected def bind (first : Activity σ α) (next : α → Activity σ β) : Activity σ β := fun session =>
  let ran := first session
  let rest := next ran.value ran.session
  ⟨rest.value, ran.events ++ rest.events, rest.session⟩

instance : Monad (Activity σ) where
  pure := Activity.pure
  bind := Activity.bind

/-- The activity that causes one event. -/
def emit (event : Event) : Activity σ Unit := fun session =>
  ⟨(), [event], session⟩

/-- The activity that looks at the session. -/
def get : Activity σ σ := fun session =>
  ⟨session, [], session⟩

/-- The activity that changes the session. -/
def modify (change : σ → σ) : Activity σ Unit := fun session =>
  ⟨(), [], change session⟩

/-- The activity that changes the session and has a value. -/
def modifyGet (change : σ → α × σ) : Activity σ α := fun session =>
  ⟨(change session).1, [], (change session).2⟩

@[simp]
theorem pure_run (value : α) (session : σ) :
    (pure value : Activity σ α) session = ⟨value, [], session⟩ :=
  rfl

theorem bind_run (first : Activity σ α) (next : α → Activity σ β) (session : σ) :
    (first >>= next) session =
      ⟨(next (first session).value (first session).session).value,
        (first session).events ++ (next (first session).value (first session).session).events,
        (next (first session).value (first session).session).session⟩ :=
  rfl

/-- Events are put in a row. -/
@[simp]
theorem bind_events (first : Activity σ α) (next : α → Activity σ β) (session : σ) :
    ((first >>= next) session).events =
      (first session).events ++ (next (first session).value (first session).session).events :=
  rfl

@[simp]
theorem bind_value (first : Activity σ α) (next : α → Activity σ β) (session : σ) :
    ((first >>= next) session).value =
      (next (first session).value (first session).session).value :=
  rfl

@[simp]
theorem bind_session (first : Activity σ α) (next : α → Activity σ β) (session : σ) :
    ((first >>= next) session).session =
      (next (first session).value (first session).session).session :=
  rfl

/-- Activities may be grouped from either end. -/
theorem bind_assoc (first : Activity σ α) (second : α → Activity σ β) (third : β → Activity σ γ) :
    (first >>= second) >>= third = first >>= fun value => second value >>= third := by
  funext session
  simp [bind_run, List.append_assoc]

/-- An activity whose value is left as it is stays the same. -/
theorem id_map (activity : Activity σ α) : id <$> activity = activity := by
  funext session
  simp [Functor.map, Activity.bind, Activity.pure]

/-- Nothing before an activity stays nothing. -/
theorem pure_bind (value : α) (next : α → Activity σ β) :
    (pure value : Activity σ α) >>= next = next value := by
  funext session
  simp [bind_run]

instance : LawfulMonad (Activity σ) :=
  LawfulMonad.mk' _ id_map pure_bind bind_assoc

/-- A change of the value changes nothing else. -/
@[simp]
theorem map_run (change : α → β) (activity : Activity σ α) (session : σ) :
    (change <$> activity) session =
      ⟨change (activity session).value, (activity session).events, (activity session).session⟩ := by
  simp [← bind_pure_comp, bind_run]

@[simp]
theorem emit_run (event : Event) (session : σ) : emit event session = ⟨(), [event], session⟩ :=
  rfl

@[simp]
theorem get_run (session : σ) : get session = ⟨session, [], session⟩ :=
  rfl

/-- What follows a look at the session sees it as it is. -/
theorem get_bind_run (next : σ → Activity σ α) (session : σ) :
    (get >>= next) session = next session session :=
  rfl

@[simp]
theorem modify_run (change : σ → σ) (session : σ) :
    modify change session = ⟨(), [], change session⟩ :=
  rfl

@[simp]
theorem modifyGet_run (change : σ → α × σ) (session : σ) :
    modifyGet change session = ⟨(change session).1, [], (change session).2⟩ :=
  rfl

end Activity

end DeviceConsole
