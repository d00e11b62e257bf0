import DeviceConsole.Session

/-!
# Two screens

A session may have a screen that breaks, or a log that keeps more or less, and it does not
go on differently for that.  Two sessions that differ in their screens and logs only are
run side by side here: one with any screen, the other with a screen that never fails.  They
do the same, and the first screen has what it takes of what the second one has.

Main results:

- Theorem {lit}`Console.clip_append`: a console takes of a text in two parts what it takes of
  the one and then of the other.
- Theorem {lit}`Alongside.bind_related`: activities that go along stay together in a row.
- Theorem {lit}`Alongside.converse`: what an engine does goes along.
-/

namespace DeviceConsole

variable {η ω α β γ δ : Type}

/-! ## What a console takes -/

namespace Console

/-- What a console takes of a text. -/
def clip (console : Console) (bytes : List UInt8) : List UInt8 :=
  match console.room with
  | none => bytes
  | some room => bytes.take room

/-- The console after a text was written to it. -/
def after (console : Console) (bytes : List UInt8) : Console :=
  { console with room := console.room.map (· - bytes.length) }

theorem write_accepted (console : Console) (bytes : List UInt8) :
    (console.write bytes).accepted = console.clip bytes := by
  cases hroom : console.room with
  | none => rw [write_working hroom, clip, hroom]
  | some room => rw [accepted_eq_take hroom, clip, hroom]

theorem write_console (console : Console) (bytes : List UInt8) :
    (console.write bytes).console = console.after bytes := by
  cases hroom : console.room with
  | none => rw [write_working hroom, after, hroom, Option.map_none, ← hroom]
  | some room =>
      by_cases hfits : bytes.length ≤ room
      · simp [write, after, hroom, hfits]
      · have hnone : room - bytes.length = 0 := by omega
        simp [write, after, hroom, hfits, hnone]

theorem clip_nil (console : Console) : console.clip [] = [] := by
  cases hroom : console.room <;> simp [clip, hroom]

theorem after_nil (console : Console) : console.after [] = console := by
  rcases console with ⟨room, flushFails⟩
  cases room <;> rfl

/-- A console takes of a text in two parts what it takes of the one and then of the other. -/
theorem clip_append (console : Console) (left right : List UInt8) :
    console.clip (left ++ right) = console.clip left ++ (console.after left).clip right := by
  cases hroom : console.room with
  | none => simp [clip, after, hroom]
  | some room => simp [clip, after, hroom, List.take_append]

theorem after_append (console : Console) (left right : List UInt8) :
    console.after (left ++ right) = (console.after left).after right := by
  cases hroom : console.room with
  | none => simp [after, hroom]
  | some room => simp [after, hroom, Nat.sub_sub]

/-- What a console takes of a text leaves it as the whole text does. -/
theorem after_clip (console : Console) (bytes : List UInt8) :
    console.after (console.clip bytes) = console.after bytes := by
  cases hroom : console.room with
  | none => rw [clip, hroom]
  | some room =>
      have hleft : room - min room bytes.length = room - bytes.length := by omega
      simp [clip, after, hroom, hleft]

end Console

namespace Session

variable (S : Setting η ω) (session : Session η ω)

/-- Looking for an interrupt leaves the screen alone. -/
theorem attend_console : (attend S session).session.console = session.console := by
  cases harrived : (S.host.interrupt session.host).1 <;> simp [attend, raise, harrived]

/-- A write leaves what the screen takes of the text. -/
theorem write_events (text : String) :
    (write S text session).events =
      (attend S session).events ++ [.wrote (session.console.clip (Utf8.encode text))] := by
  have hwrite : (write S text session).events = (attend S session).events ++
      [.wrote ((attend S session).session.console.write (Utf8.encode text)).accepted] := rfl
  rw [hwrite, attend_console, Console.write_accepted]

/-- A flush leaves nothing. -/
theorem writeFlushed_events (text : String) :
    (writeFlushed S text session).events = (write S text session).events := by
  rw [writeFlushed, Activity.bind_events]
  cases (write S text session).value with
  | ok _ => exact List.append_nil _
  | error failure => exact List.append_nil _

end Session

/-! ## Sessions side by side -/

/-- Whether an event is more than text on the screen or in the log. -/
def Event.isConduct : Event → Bool
  | wrote _ | logged _ => false
  | _ => true

/-- What a session does, its screen and its log aside. -/
def Trace.conduct (trace : Trace) : Trace :=
  trace.filter Event.isConduct

@[simp]
theorem Trace.conduct_append (left right : Trace) :
    (left ++ right).conduct = left.conduct ++ right.conduct :=
  List.filter_append _ _

/-- The same setting with another log. -/
def Setting.logging (S : Setting η ω) (keeps : Diagnostic → Bool) : Setting η ω :=
  { S with keeps }

/-- An activity that does nothing, but may tell the log something. -/
structure IsMute (activity : Activity (Session η ω) Unit) : Prop where
  session_eq : ∀ session, (activity session).session = session
  conduct_eq : ∀ session, (activity session).events.conduct = []
  output_eq : ∀ session, (activity session).events.output = []

namespace IsMute

variable (S : Setting η ω)

theorem pure : IsMute (pure () : Activity (Session η ω) Unit) :=
  ⟨fun _ => rfl, fun _ => rfl, fun _ => rfl⟩

theorem log (diagnostic : Diagnostic) : IsMute (Session.log S diagnostic) := by
  unfold Session.log
  split
  · exact ⟨fun _ => rfl, fun _ => rfl, fun _ => rfl⟩
  · exact pure

theorem logFailure (diagnostic : IoFailure → Diagnostic) (result : Except IoFailure Unit) :
    IsMute (Session.logFailure S diagnostic result) := by
  cases result with
  | ok _ => exact pure
  | error failure => exact log S _

end IsMute

/-- What is left by an activity with any console, and what is left by one with a console that
never fails. -/
structure Alike (related : α → β → Prop) (console : Console) (limited : Ran (Session η ω) α)
    (free : Ran (Session η ω) β) : Prop where
  value : related limited.value free.value
  conduct : limited.events.conduct = free.events.conduct
  output : limited.events.output = console.clip free.events.output
  session : limited.session = { free.session with console := console.after free.events.output }
  screen : free.session.console = .working

/-- Of a result that the first screen may have, the second has the good one. -/
def MayFail (_result other : Except IoFailure Unit) : Prop :=
  other = .ok ()

/-- Two activities go along with each other, whatever the console of the first. -/
def Alongside (related : α → β → Prop) (limited : Activity (Session η ω) α)
    (free : Activity (Session η ω) β) : Prop :=
  ∀ console session, session.console = .working →
    Alike related console (limited { session with console }) (free session)

namespace Alongside

variable {related : α → β → Prop} {others : γ → δ → Prop}

/-- Activities that go along stay together in a row. -/
theorem bind_related {first : Activity (Session η ω) α} {second : Activity (Session η ω) β}
    {next : α → Activity (Session η ω) γ} {follow : β → Activity (Session η ω) δ}
    (hfirst : Alongside related first second)
    (hnext : ∀ value other, related value other → Alongside others (next value) (follow other)) :
    Alongside others (first >>= next) (second >>= follow) := by
  intro console session hscreen
  have hfront := hfirst console session hscreen
  have hback := hnext _ _ hfront.value (console.after (second session).events.output)
    (second session).session hfront.screen
  rw [← hfront.session] at hback
  constructor
  · exact hback.value
  · simp only [Activity.bind_events, Trace.conduct_append, hfront.conduct, hback.conduct]
  · simp only [Activity.bind_events, Trace.output_append, Console.clip_append, hfront.output,
      hback.output]
  · simp only [Activity.bind_events, Trace.output_append, Console.after_append,
      Activity.bind_session, hback.session]
  · exact hback.screen

/-- What has the same value on both sides is followed by what depends on that value. -/
theorem bind {first second : Activity (Session η ω) α} {next : α → Activity (Session η ω) γ}
    {follow : α → Activity (Session η ω) δ} (hfirst : Alongside Eq first second)
    (hnext : ∀ value, Alongside others (next value) (follow value)) :
    Alongside others (first >>= next) (second >>= follow) := by
  refine bind_related hfirst ?_
  intro value other heq
  subst heq
  exact hnext value

theorem pure {value : α} {other : β} (hrelated : related value other) :
    Alongside related (pure value : Activity (Session η ω) α) (pure other) := by
  intro console session hscreen
  refine ⟨hrelated, rfl, (Console.clip_nil console).symm, ?_, hscreen⟩
  change _ = { session with console := console.after [] }
  rw [Console.after_nil]
  rfl

/-- Less may be said of the values. -/
theorem weaken {limited : Activity (Session η ω) α} {free : Activity (Session η ω) β}
    {looser : α → β → Prop} (h : Alongside related limited free)
    (hlooser : ∀ value other, related value other → looser value other) :
    Alongside looser limited free := by
  intro console session hscreen
  have hran := h console session hscreen
  exact ⟨hlooser _ _ hran.value, hran.conduct, hran.output, hran.session, hran.screen⟩

/-- What the two see of their sessions is the same, the consoles aside. -/
theorem get_bind {next : Session η ω → Activity (Session η ω) γ}
    {follow : Session η ω → Activity (Session η ω) δ}
    (hnext : ∀ console session,
      Alongside others (next { session with console }) (follow session)) :
    Alongside others (Activity.get >>= next) (Activity.get >>= follow) := by
  intro console session hscreen
  rw [Activity.get_bind_run, Activity.get_bind_run]
  exact hnext console session console session hscreen

/-- A change that leaves the console alone, and does not look at it, goes along. -/
theorem modifyGet {change : Session η ω → α × Session η ω}
    (hchange : ∀ console session, change { session with console } =
      ((change session).1, { (change session).2 with console }))
    (hconsole : ∀ session, (change session).2.console = session.console) :
    Alongside Eq (Activity.modifyGet change) (Activity.modifyGet change) := by
  intro console session hscreen
  simp only [Activity.modifyGet_run, hchange console session]
  refine ⟨rfl, rfl, (Console.clip_nil console).symm, ?_, ?_⟩
  · change _ = { (change session).2 with console := console.after [] }
    rw [Console.after_nil]
  · exact (hconsole session).trans hscreen

theorem modify {change : Session η ω → Session η ω}
    (hchange : ∀ console session, change { session with console } =
      { change session with console })
    (hconsole : ∀ session, (change session).console = session.console) :
    Alongside Eq (Activity.modify change) (Activity.modify change) := by
  refine @modifyGet η ω Unit (fun session => ((), change session)) ?_ hconsole
  intro console session
  rw [hchange]

theorem emit {event : Event} (hsilent : Trace.output [event] = []) :
    Alongside Eq (Activity.emit event : Activity (Session η ω) Unit) (Activity.emit event) := by
  intro console session hscreen
  refine ⟨rfl, rfl, ?_, ?_, hscreen⟩
  · rw [Activity.emit_run, Activity.emit_run, hsilent, Console.clip_nil]
  · rw [Activity.emit_run, Activity.emit_run, hsilent, Console.after_nil]

/-! ### Telling, stopping and writing -/

variable (S : Setting η ω) (keeps : Diagnostic → Bool)

/-- The two logs need not be told the same. -/
theorem mute {limited free : Activity (Session η ω) Unit} (hlimited : IsMute limited)
    (hfree : IsMute free) : Alongside Eq limited free := by
  intro console session hscreen
  constructor
  · rfl
  · rw [hlimited.conduct_eq, hfree.conduct_eq]
  · rw [hlimited.output_eq, hfree.output_eq, Console.clip_nil]
  · rw [hlimited.session_eq, hfree.session_eq, hfree.output_eq, Console.after_nil]
  · rw [hfree.session_eq]
    exact hscreen

theorem log (diagnostic : Diagnostic) :
    Alongside Eq (Session.log (S.logging keeps) diagnostic) (Session.log S diagnostic) :=
  mute (IsMute.log _ _) (IsMute.log _ _)

theorem raise (source : RaiseSource) (reason : Termination) :
    Alongside Eq (Session.raise source reason : Activity (Session η ω) Unit)
      (Session.raise source reason) := by
  refine bind (modify ?_ ?_) fun _ => emit rfl
  · intro console session
    rfl
  · intro session
    rfl

theorem attend : Alongside Eq (Session.attend (S.logging keeps)) (Session.attend S) := by
  refine bind (modifyGet ?_ ?_) ?_
  · intro console session
    rfl
  · intro session
    rfl
  · intro arrived
    split
    · exact raise _ _
    · exact pure rfl

theorem note {event : Event} (hsilent : Trace.output [event] = []) :
    Alongside Eq (Session.note (S.logging keeps) event) (Session.note S event) :=
  bind (attend S keeps) fun _ => emit hsilent

/-- Of what the one screen is written, the other takes what still fits. -/
theorem write (text : String) :
    Alongside MayFail (Session.write (S.logging keeps) text)
      (Session.write S text) := by
  refine bind (attend S keeps) fun _ => ?_
  intro console session hscreen
  have hfree : session.console.write (Utf8.encode text) =
      ⟨Utf8.encode text, .ok (), session.console⟩ := by
    rw [hscreen]
    exact Console.write_working rfl _
  have houtput : ∀ bytes, Trace.output [.wrote bytes] = bytes := by simp [Trace.output]
  constructor
  · simp [MayFail, hfree]
  · simp [Trace.conduct, Event.isConduct]
  · simp [hfree, houtput, Console.write_accepted]
  · simp [hfree, houtput, Console.write_console]
  · simpa [hfree] using hscreen

/-- Flushing the screen may fail for the one, and does nothing else. -/
theorem flush : Alongside MayFail Session.flush (Session.flush : Activity (Session η ω) _) := by
  intro console session hscreen
  refine ⟨?_, rfl, (Console.clip_nil console).symm, ?_, hscreen⟩
  · simp [MayFail, Session.flush, hscreen, Console.flush, Console.working]
  · change _ = { session with console := console.after [] }
    rw [Console.after_nil]
    rfl

/-- A screen that has failed already need not be flushed. -/
theorem skipFlush (result : Except IoFailure Unit) :
    Alongside MayFail (Pure.pure result) (Session.flush : Activity (Session η ω) _) := by
  intro console session hscreen
  refine ⟨?_, rfl, (Console.clip_nil console).symm, ?_, hscreen⟩
  · simp [MayFail, Session.flush, hscreen, Console.flush, Console.working]
  · change _ = { session with console := console.after [] }
    rw [Console.after_nil]
    rfl

theorem writeFlushed (text : String) :
    Alongside MayFail (Session.writeFlushed (S.logging keeps) text)
      (Session.writeFlushed S text) := by
  refine bind_related (write S keeps text) ?_
  intro result other hother
  subst hother
  cases result with
  | ok _ => exact flush
  | error failure => exact skipFlush _

theorem logFailure (diagnostic : IoFailure → Diagnostic) (result other : Except IoFailure Unit) :
    Alongside Eq (Session.logFailure (S.logging keeps) diagnostic result)
      (Session.logFailure S diagnostic other) :=
  mute (IsMute.logFailure _ _ _) (IsMute.logFailure _ _ _)

theorem writeConsole (text : String) :
    Alongside Eq (Session.writeConsole (S.logging keeps) text) (Session.writeConsole S text) :=
  bind_related (writeFlushed S keeps text) fun _ _ _ => logFailure S keeps _ _ _

/-! ### The engine -/

theorem heed (remark : Remark) :
    Alongside Eq (Session.heed (S.logging keeps) remark) (Session.heed S remark) := by
  cases remark with
  | raise reason => exact raise _ _
  | log diagnostic => exact log S keeps _

theorem heedAll (remarks : List Remark) :
    Alongside Eq (Session.heedAll (S.logging keeps) remarks) (Session.heedAll S remarks) := by
  induction remarks with
  | nil => exact pure rfl
  | cons remark rest ih => exact bind (heed S keeps remark) fun _ => ih

theorem modifyEngine (engine : η) :
    Alongside Eq (Activity.modify fun session : Session η ω => { session with engine })
      (Activity.modify fun session : Session η ω => { session with engine }) :=
  modify (fun _ _ => rfl) fun _ => rfl

/-- What the host is asked, it answers the same. -/
theorem modifyHost (ask : ω → α × ω) :
    Alongside Eq
      (Activity.modifyGet fun session : Session η ω =>
        ((ask session.host).1, { session with host := (ask session.host).2 }))
      (Activity.modifyGet fun session : Session η ω =>
        ((ask session.host).1, { session with host := (ask session.host).2 })) :=
  modifyGet (fun _ _ => rfl) fun _ => rfl

theorem sendOver (connection : ConnectionId) (datagram : List UInt8) :
    Alongside Eq (Session.sendOver (S.logging keeps) connection datagram)
      (Session.sendOver S connection datagram) := by
  refine get_bind fun console session => ?_
  dsimp only
  cases session.directory.get? connection with
  | none => exact pure rfl
  | some entry =>
      refine bind (log S keeps _) fun _ => bind (note S keeps rfl) fun _ => ?_
      refine bind (modifyHost fun host => S.host.send host entry.peer datagram) fun result => ?_
      exact pure rfl

/-- What an engine does goes along. -/
theorem converse (dialogue : Dialogue α) :
    Alongside Eq (Session.converse (S.logging keeps) dialogue) (Session.converse S dialogue) := by
  induction dialogue with
  | finish value => exact pure rfl
  | remark said rest ih => exact bind (heed S keeps said) fun _ => ih
  | send connection datagram resume ih =>
      refine bind (sendOver S keeps connection datagram) fun answer => ?_
      exact bind (emit rfl) fun _ => ih answer

theorem stepEngine :
    Alongside Eq (Session.stepEngine (S.logging keeps)) (Session.stepEngine S) := by
  refine bind (note S keeps rfl) fun _ => get_bind fun console session => ?_
  refine bind (converse S keeps (S.engine.step session.engine)) fun ⟨engine, answer⟩ => ?_
  exact bind (modifyEngine engine) fun _ => bind (emit rfl) fun _ => pure rfl

theorem decode (path : Path) (text : String) :
    Alongside Eq (Session.decode (S.logging keeps) path text) (Session.decode S path text) := by
  refine bind (note S keeps rfl) fun _ => get_bind fun console session => ?_
  refine bind (heedAll S keeps _) fun _ => ?_
  exact bind (emit rfl) fun _ => pure rfl

theorem submit (device : DeviceId) (request : Request) :
    Alongside Eq (Session.submit (S.logging keeps) device request)
      (Session.submit S device request) := by
  refine bind (note S keeps rfl) fun _ => get_bind fun console session => ?_
  refine bind (heedAll S keeps _) fun _ => bind (modifyEngine _) fun _ => ?_
  exact bind (emit rfl) fun _ => pure rfl

theorem popOutcome :
    Alongside Eq (Session.popOutcome (S.logging keeps)) (Session.popOutcome S) := by
  refine bind (note S keeps rfl) fun _ => get_bind fun console session => ?_
  refine bind (heedAll S keeps _) fun _ => bind (modifyEngine _) fun _ => ?_
  exact bind (emit rfl) fun _ => pure rfl

theorem closeEngine :
    Alongside Eq (Session.closeEngine (S.logging keeps)) (Session.closeEngine S) :=
  bind (note S keeps rfl) fun _ => get_bind fun _ session =>
    converse S keeps (S.engine.close session.engine)

theorem handlePacket (connection : Connection) (bytes : List UInt8) :
    Alongside Eq (Session.handlePacket (S.logging keeps) connection bytes)
      (Session.handlePacket S connection bytes) := by
  refine bind (note S keeps rfl) fun _ => get_bind fun console session => ?_
  refine bind (converse S keeps (S.engine.handlePacket session.engine connection bytes))
    fun engine => ?_
  exact modifyEngine engine

/-! ### The host -/

theorem wait (timeout : Duration) :
    Alongside Eq (Session.wait (S.logging keeps) timeout) (Session.wait S timeout) := by
  refine bind (attend S keeps) fun _ => ?_
  refine bind (modifyHost fun host => S.host.wait host timeout) fun answer => ?_
  exact bind (emit rfl) fun _ => pure rfl

theorem receive :
    Alongside Eq (Session.receive (S.logging keeps)) (Session.receive S) := by
  refine bind (attend S keeps) fun _ => ?_
  refine bind (modifyHost fun host =>
    ((S.host.receive host).1.map Session.cut, (S.host.receive host).2)) fun answer => ?_
  exact bind (emit rfl) fun _ => pure rfl

theorem fillInput :
    Alongside Eq (Session.fillInput (S.logging keeps)) (Session.fillInput S) := by
  refine get_bind fun console session => ?_
  dsimp only
  split
  · exact pure rfl
  · refine bind (attend S keeps) fun _ => ?_
    refine bind (modifyHost S.host.read) fun answer => ?_
    exact bind (emit rfl) fun _ => modifyGet (fun _ _ => rfl) fun _ => rfl

theorem takeLine :
    Alongside Eq Session.takeLine
      (Session.takeLine : Activity (Session η ω) (Option OperatorLine)) := by
  refine bind (modifyGet (fun _ _ => rfl) fun _ => rfl) fun line => ?_
  cases line with
  | none => exact pure rfl
  | some line => exact bind (emit rfl) fun _ => pure rfl

theorem isRaised :
    Alongside Eq (Session.isRaised (S.logging keeps)) (Session.isRaised S) :=
  bind (attend S keeps) fun _ => get_bind fun _ _ => pure rfl

theorem check : Alongside Eq (Session.check (S.logging keeps)) (Session.check S) :=
  bind (attend S keeps) fun _ => get_bind fun _ _ => bind (emit rfl) fun _ => pure rfl

end Alongside

end DeviceConsole
