import DeviceConsole.Session

/-!
# What events are about

Every event of a session is about one thing: the screen, a step of the engine, a wait and so
on.  An activity leaves events about a few things only, and what a run does about one thing
is found in the few activities that concern it.  Interrupts, what the engine asks on the side
and the log may come up at any moment; they are the asides.

Main results:

- Theorem {lit}`Concerns.bind`: what two activities in a row concern.
- Theorem {lit}`Concerns.converse`: an engine that speaks leaves sends and asides only.
- Theorem {lit}`Session.attend_events`: looking for an interrupt leaves at most its event.
-/

namespace DeviceConsole

variable {η ω α β : Type}

/-- An event that is behind two traces in a row lies in the one or in the other. -/
theorem Trace.split_append {left right before after : Trace} {event : Event}
    (hsplit : left ++ right = before ++ event :: after) :
    (∃ rest, left = before ++ event :: rest ∧ after = rest ++ right) ∨
      ∃ front, before = left ++ front ∧ right = front ++ event :: after := by
  rcases List.append_eq_append_iff.mp hsplit with ⟨front, hbefore, hright⟩ | ⟨rest, hleft, hrest⟩
  · exact Or.inr ⟨front, hbefore, hright⟩
  · cases rest with
    | nil =>
        right
        exact ⟨[], by simpa using hleft.symm, by simpa using hrest.symm⟩
    | cons first rest =>
        obtain ⟨rfl, hafter⟩ := List.cons.inj hrest
        exact Or.inl ⟨rest, hleft, hafter⟩

/-! ## Topics -/

/-- What an event is about. -/
inductive Topic where
  /-- Interrupts, what the engine asks on the side, and the log. -/
  | aside
  /-- Text on the screen. -/
  | screen
  /-- Datagrams that go out. -/
  | link
  /-- Steps of the engine. -/
  | step
  /-- The outcomes that the engine has queued. -/
  | queue
  /-- Waits. -/
  | wait
  /-- Datagrams that come in. -/
  | socket
  /-- Reads of the operator's stream. -/
  | stream
  /-- Lines of the operator's that are taken. -/
  | line
  /-- Requests of the operator's. -/
  | request
  /-- The operator's wish to stop. -/
  | stop
  /-- Looks of the loop whether to stop. -/
  | look
  /-- Letting go of everything. -/
  | closing
  /-- The start of the console. -/
  | startup
deriving DecidableEq, Repr

/-- What the event is about. -/
def Event.topic : Event → Topic
  | raised .interrupt _ | raised .engine _ | logged _ => .aside
  | wrote _ => .screen
  | sent _ _ | sendAnswered _ _ => .link
  | called .step | stepped _ => .step
  | called .nextOutcome | popped _ => .queue
  | waited _ _ => .wait
  | received _ | called (.handlePacket _ _) => .socket
  | reported (.connectionOpened _) | reported (.datagramDropped _ _) => .socket
  | read _ => .stream
  | lineTaken _ => .line
  | called (.decode _ _) | decoded _ | called (.submit _ _) | submitted _ _ _ => .request
  | raised .command _ | raised .endOfInput _ => .stop
  | checked _ => .look
  | called .close | engineDropped | pollerDropped | socketClosed => .closing
  | reported (.shutdownCompleted _ _) => .closing
  | entered _ | reported _ => .startup

/-- Whatever the activity does, it leaves events about the topics only. -/
def Concerns (topics : List Topic) (activity : Activity (Session η ω) α) : Prop :=
  ∀ session, ∀ event ∈ (activity session).events, event.topic ∈ topics

/-- The events of a trace that are about a topic. -/
def Trace.about (topic : Topic) (trace : Trace) : Trace :=
  trace.filter (·.topic = topic)

namespace Trace

variable {topic : Topic}

@[simp]
theorem about_nil : about topic [] = [] :=
  rfl

@[simp]
theorem about_append (left right : Trace) :
    (left ++ right).about topic = left.about topic ++ right.about topic :=
  List.filter_append _ _

theorem about_cons (event : Event) (trace : Trace) :
    about topic (event :: trace) =
      if event.topic = topic then event :: trace.about topic else trace.about topic := by
  simp [about, List.filter_cons]

/-- A trace that keeps to some topics has nothing about another one. -/
theorem about_eq_nil {topics : List Topic} {trace : Trace}
    (h : ∀ event ∈ trace, event.topic ∈ topics) (hnone : topic ∉ topics) :
    trace.about topic = [] := by
  rw [about, List.filter_eq_nil_iff]
  intro event hmem
  simp only [decide_eq_true_eq]
  rintro rfl
  exact hnone (h event hmem)

/-- Interrupts are asides. -/
theorem topics_interrupts {interrupts : Trace}
    (h : ∀ event ∈ interrupts, event = .raised .interrupt .interrupted) :
    ∀ event ∈ interrupts, event.topic ∈ [.aside] := by
  intro event hmem
  rw [h event hmem]
  decide

/-- A view that sees events about one topic only sees the same in these. -/
theorem filterMap_about {γ : Type} {view : Event → Option γ}
    (hview : ∀ event, event.topic ≠ topic → view event = none) (trace : Trace) :
    (trace.about topic).filterMap view = trace.filterMap view := by
  induction trace with
  | nil => rfl
  | cons event trace ih =>
      rw [about_cons]
      by_cases htopic : event.topic = topic
      · rw [if_pos htopic, List.filterMap_cons, List.filterMap_cons, ih]
      · rw [if_neg htopic, List.filterMap_cons_none (hview event htopic), ih]

@[simp]
theorem lines_about (trace : Trace) : (trace.about .line).lines = trace.lines := by
  refine filterMap_about (fun event htopic => ?_) trace
  split
  · exact absurd rfl htopic
  · rfl

/-- Only what is about the screen is seen there. -/
theorem output_eq_nil {trace : Trace} (h : ∀ event ∈ trace, event.topic ≠ .screen) :
    trace.output = [] := by
  rw [output, List.flatMap_eq_nil_iff]
  intro event hmem
  split
  · exact absurd rfl (h _ hmem)
  · rfl

end Trace

/-! ## What activities concern -/

namespace Concerns

variable {topics more : List Topic}

theorem mono {activity : Activity (Session η ω) α} (h : Concerns topics activity)
    (hmore : topics ⊆ more) : Concerns more activity := by
  intro session event hmem
  exact hmore (h session event hmem)

/-- What an activity does not concern is not among its events. -/
theorem topic_ne {activity : Activity (Session η ω) α} (h : Concerns topics activity)
    {session : Session η ω} {event : Event} (hmem : event ∈ (activity session).events)
    (topic : Topic) (hnone : topic ∉ topics) : event.topic ≠ topic := by
  rintro rfl
  exact hnone (h session event hmem)

theorem mem_of_split {activity : Activity (Session η ω) α} (h : Concerns topics activity)
    {session : Session η ω} {before after : Trace} {event : Event}
    (hsplit : (activity session).events = before ++ event :: after) : event.topic ∈ topics := by
  apply h session event
  simp [hsplit]

/-- An activity leaves no events about what it does not concern. -/
theorem about_eq_nil {activity : Activity (Session η ω) α} (h : Concerns topics activity)
    (session : Session η ω) {topic : Topic} (hnone : topic ∉ topics) :
    (activity session).events.about topic = [] := by
  rw [Trace.about, List.filter_eq_nil_iff]
  intro event hmem
  simpa using h.topic_ne hmem topic hnone

/-- An activity that is not about the screen shows nothing. -/
theorem output_eq_nil {activity : Activity (Session η ω) α} (h : Concerns topics activity)
    (session : Session η ω) (hscreen : .screen ∉ topics) :
    (activity session).events.output = [] :=
  Trace.output_eq_nil fun _ hmem => h.topic_ne hmem .screen hscreen

theorem pure (value : α) : Concerns topics (pure value : Activity (Session η ω) α) := by
  simp [Concerns]

theorem get : Concerns topics (Activity.get : Activity (Session η ω) _) := by
  simp [Concerns]

theorem modify (change : Session η ω → Session η ω) :
    Concerns topics (Activity.modify change) := by
  simp [Concerns]

theorem modifyGet (change : Session η ω → α × Session η ω) :
    Concerns topics (Activity.modifyGet change) := by
  simp [Concerns]

theorem emit {event : Event} (htopic : event.topic ∈ topics) :
    Concerns topics (Activity.emit event : Activity (Session η ω) Unit) := by
  intro session other hmem
  obtain rfl : other = event := by simpa using hmem
  exact htopic

/-- Two activities in a row concern what each of them does. -/
theorem bind {first : Activity (Session η ω) α} {next : α → Activity (Session η ω) β}
    (hfirst : Concerns topics first) (hnext : ∀ value, Concerns topics (next value)) :
    Concerns topics (first >>= next) := by
  intro session event hmem
  rcases List.mem_append.mp hmem with hfront | hback
  · exact hfirst session event hfront
  · exact hnext _ _ event hback

/-- An event that is not about what the first activity concerns is one of the next. -/
theorem split_bind {first : Activity (Session η ω) α} {next : α → Activity (Session η ω) β}
    (hfirst : Concerns topics first) {session : Session η ω} {event : Event}
    (htopic : event.topic ∉ topics) {before after : Trace}
    (hsplit : ((first >>= next) session).events = before ++ event :: after) :
    ∃ front, (next (first session).value (first session).session).events =
      front ++ event :: after := by
  rw [Activity.bind_events] at hsplit
  rcases Trace.split_append hsplit with ⟨rest, hmem, -⟩ | ⟨front, -, hnext⟩
  · exact absurd (hfirst session event (by simp [hmem])) htopic
  · exact ⟨front, hnext⟩

/-! ### Telling, stopping and writing -/

attribute [local simp] Event.topic

variable (S : Setting η ω)

theorem log (diagnostic : Diagnostic) : Concerns [.aside] (Session.log S diagnostic) := by
  unfold Session.log
  split
  · exact emit (by simp)
  · exact pure _

theorem logFailure (diagnostic : IoFailure → Diagnostic) (result : Except IoFailure Unit) :
    Concerns [.aside] (Session.logFailure S diagnostic result) := by
  cases result with
  | ok _ => exact pure _
  | error failure => exact log S _

theorem raise {source : RaiseSource} {reason : Termination}
    (htopic : (Event.raised source reason).topic ∈ topics) :
    Concerns topics (Session.raise source reason : Activity (Session η ω) Unit) :=
  bind (modify _) fun _ => emit htopic

theorem attend : Concerns [.aside] (Session.attend S) := by
  refine bind (modifyGet _) fun arrived => ?_
  split
  · exact raise (by decide)
  · exact pure _

theorem note {event : Event} : Concerns [.aside, event.topic] (Session.note S event) :=
  bind ((attend S).mono (by simp)) fun _ => emit (by simp)

theorem write (text : String) : Concerns [.aside, .screen] (Session.write S text) :=
  bind ((attend S).mono (by decide)) fun _ => bind (modifyGet _) fun _ =>
    bind (emit (by simp)) fun _ => pure _

theorem flush : Concerns topics (Session.flush : Activity (Session η ω) _) :=
  bind get fun _ => pure _

theorem writeFlushed (text : String) :
    Concerns [.aside, .screen] (Session.writeFlushed S text) := by
  refine bind (write S text) fun result => ?_
  cases result with
  | ok _ => exact flush
  | error failure => exact pure _

theorem writeConsole (text : String) : Concerns [.aside, .screen] (Session.writeConsole S text) :=
  bind (writeFlushed S text) fun _ => (logFailure S _ _).mono (by decide)

theorem isRaised : Concerns [.aside] (Session.isRaised S) :=
  bind (attend S) fun _ => bind get fun _ => pure _

theorem check : Concerns [.aside, .look] (Session.check S) :=
  bind ((attend S).mono (by decide)) fun _ => bind get fun _ =>
    bind (emit (by simp)) fun _ => pure _

/-! ### The engine -/

theorem heed (remark : Remark) : Concerns [.aside] (Session.heed S remark) := by
  cases remark with
  | raise reason => exact raise (by simp)
  | log diagnostic => exact log S diagnostic

theorem heedAll (remarks : List Remark) : Concerns [.aside] (Session.heedAll S remarks) := by
  induction remarks with
  | nil => exact pure _
  | cons remark rest ih => exact bind (heed S remark) fun _ => ih

theorem sendOver (connection : ConnectionId) (datagram : List UInt8) :
    Concerns [.aside, .link] (Session.sendOver S connection datagram) := by
  refine bind get fun session => ?_
  dsimp only
  cases session.directory.get? connection with
  | none => exact pure _
  | some entry =>
      refine bind ((log S _).mono (by decide)) fun _ => bind (note S) fun _ => ?_
      exact bind (modifyGet _) fun _ => pure _

/-- An engine that speaks leaves sends and asides only. -/
theorem converse (dialogue : Dialogue α) :
    Concerns [.aside, .link] (Session.converse S dialogue) := by
  induction dialogue with
  | finish value => exact pure value
  | remark said rest ih => exact bind ((heed S said).mono (by decide)) fun _ => ih
  | send connection datagram resume ih =>
      refine bind (sendOver S connection datagram) fun answer => ?_
      exact bind (emit (by simp)) fun _ => ih answer

theorem stepEngine : Concerns [.aside, .link, .step] (Session.stepEngine S) := by
  refine bind ((note S).mono (by decide)) fun _ => bind get fun session => ?_
  refine bind ((converse S _).mono (by decide)) fun answer => ?_
  exact bind (modify _) fun _ => bind (emit (by simp)) fun _ => pure _

theorem handlePacket (connection : Connection) (bytes : List UInt8) :
    Concerns [.aside, .link, .socket] (Session.handlePacket S connection bytes) := by
  refine bind ((note S).mono (by simp)) fun _ => bind get fun session => ?_
  exact bind ((converse S _).mono (by decide)) fun _ => modify _

theorem decode (path : Path) (text : String) :
    Concerns [.aside, .request] (Session.decode S path text) := by
  refine bind (note S) fun _ => bind get fun session => ?_
  exact bind ((heedAll S _).mono (by decide)) fun _ =>
    bind (emit (by simp)) fun _ => pure _

theorem submit (device : DeviceId) (request : Request) :
    Concerns [.aside, .request] (Session.submit S device request) := by
  refine bind (note S) fun _ => bind get fun session => ?_
  refine bind ((heedAll S _).mono (by decide)) fun _ => ?_
  exact bind (modify _) fun _ => bind (emit (by simp)) fun _ => pure _

theorem popOutcome : Concerns [.aside, .queue] (Session.popOutcome S) := by
  refine bind (note S) fun _ => bind get fun session => ?_
  refine bind ((heedAll S _).mono (by decide)) fun _ => ?_
  exact bind (modify _) fun _ => bind (emit (by simp)) fun _ => pure _

theorem closeEngine : Concerns [.aside, .link, .closing] (Session.closeEngine S) := by
  refine bind ((note S).mono (by decide)) fun _ => bind get fun session => ?_
  exact (converse S _).mono (by decide)

/-! ### The host -/

theorem wait (timeout : Duration) : Concerns [.aside, .wait] (Session.wait S timeout) :=
  bind ((attend S).mono (by decide)) fun _ => bind (modifyGet _) fun _ =>
    bind (emit (by simp)) fun _ => pure _

theorem receive : Concerns [.aside, .socket] (Session.receive S) :=
  bind ((attend S).mono (by decide)) fun _ => bind (modifyGet _) fun _ =>
    bind (emit (by simp)) fun _ => pure _

theorem fillInput : Concerns [.aside, .stream] (Session.fillInput S) := by
  refine bind get fun session => ?_
  split
  · exact pure _
  · exact bind ((attend S).mono (by decide)) fun _ => bind (modifyGet _) fun _ =>
      bind (emit (by simp)) fun _ => modifyGet _

theorem takeLine : Concerns [.line] (Session.takeLine : Activity (Session η ω) _) := by
  refine bind (modifyGet _) fun line => ?_
  cases line with
  | none => exact pure _
  | some line => exact bind (emit (by simp)) fun _ => pure _

end Concerns

namespace Session

variable (S : Setting η ω) (session : Session η ω)

/-- Looking for an interrupt leaves at most its event. -/
theorem attend_events : (attend S session).events = [] ∨
    (attend S session).events = [.raised .interrupt .interrupted] := by
  cases harrived : (S.host.interrupt session.host).1 with
  | false =>
      left
      simp [attend, harrived]
  | true =>
      right
      simp [attend, raise, harrived]

end Session

end DeviceConsole
