import DeviceConsole.Proofs.Command.Handling

/-!
# Why a line is not carried out

A line that cannot be read is malformed or names no command; nothing else goes wrong before the
engine is asked.  What goes wrong after that is a payload that does not decode: a partial write
has no use for a plain text, and a creation leaves it to the convention of its object.

Main results:

- Theorem {lit}`ofLine?_yields`: a line that cannot be read is a mistake.
- Theorem {lit}`dispatch_of_unread`: what becomes of a keyword with other arguments than its own.
- Theorem {lit}`handlingOf_fails`: why a line is not carried out.
- Theorem {lit}`handlingOf_shows`: which lines are answered with a text of their own.
-/

namespace DeviceConsole

variable {η ω α β : Type}

/-- Whether a failure is a mistake in a line as it was typed. -/
inductive CommandFailure.IsMistake : CommandFailure → Prop where
  | badSyntax : IsMistake .badSyntax
  | unknownCommand (keyword : String) : IsMistake (.unknownCommand keyword)

/-! ## What readers can have read -/

/-- The values of a reader are as said, and so are its failures. -/
structure Yields (fine : α → Prop) (wrong : CommandFailure → Prop) (reader : ArgumentReader α) :
    Prop where
  value : ∀ {arguments value}, (reader.run arguments).1 = .ok value → fine value
  mistake : ∀ {arguments failure}, (reader.run arguments).1 = .error failure → wrong failure

/-- Nothing is said of a value. -/
def Anything (_value : α) : Prop :=
  True

/-- A command explains an entry of the table, if it explains one. -/
def Command.ExplainsTable (command : Command) : Prop :=
  ∀ entry, command = .explain entry → entry ∈ CommandEntry.all

namespace Yields

variable {fine : α → Prop} {good : β → Prop} {wrong : CommandFailure → Prop}

theorem mono {reader : ArgumentReader α} (h : Yields fine (· = .badSyntax) reader)
    (hwrong : wrong .badSyntax) : Yields fine wrong reader where
  value := h.value
  mistake hran := by
    rw [h.mistake hran]
    exact hwrong

theorem bind {first : ArgumentReader α} {next : α → ArgumentReader β}
    (hfirst : Yields fine wrong first)
    (hnext : ∀ value, fine value → Yields good wrong (next value)) :
    Yields good wrong (first >>= next) := by
  constructor
  · intro arguments value hran
    rw [ArgumentReader.run_bind] at hran
    rcases hread : first.run arguments with ⟨answer, rest⟩
    rw [hread] at hran
    cases answer with
    | ok found => exact (hnext found (hfirst.value (congrArg Prod.fst hread))).value hran
    | error failure => exact nomatch hran
  · intro arguments failure hran
    rw [ArgumentReader.run_bind] at hran
    rcases hread : first.run arguments with ⟨answer, rest⟩
    rw [hread] at hran
    cases answer with
    | ok found => exact (hnext found (hfirst.value (congrArg Prod.fst hread))).mistake hran
    | error other =>
        obtain rfl : other = failure := Except.error.inj hran
        exact hfirst.mistake (congrArg Prod.fst hread)

theorem pure {value : α} (hvalue : fine value) :
    Yields fine wrong (pure value : ArgumentReader α) where
  value hran := Except.ok.inj hran ▸ hvalue
  mistake hran := nomatch hran

theorem throw {failure : CommandFailure} (hfailure : wrong failure) :
    Yields fine wrong (throw failure : ArgumentReader α) where
  value hran := nomatch hran
  mistake hran := Except.error.inj hran ▸ hfailure

theorem required : Yields Anything (· = .badSyntax) ArgumentReader.required where
  value _ := trivial
  mistake {arguments failure} hran := by
    replace hran : arguments.required.1 = .error failure := hran
    unfold Arguments.required at hran
    split at hran
    · exact (Except.error.inj hran).symm
    · exact nomatch hran

theorem optional : Yields Anything wrong ArgumentReader.optional where
  value _ := trivial
  mistake hran := nomatch hran

theorem finish : Yields Anything (· = .badSyntax) ArgumentReader.finish where
  value _ := trivial
  mistake {arguments failure} hran := by
    replace hran : arguments.finish = .error failure := hran
    unfold Arguments.finish at hran
    split at hran
    · exact nomatch hran
    · exact (Except.error.inj hran).symm

theorem valueOf (value : Option α) :
    Yields Anything (· = .badSyntax) (ArgumentReader.valueOf value) := by
  cases value with
  | none => exact throw rfl
  | some value => exact pure trivial

theorem device : Yields Anything (· = .badSyntax) ArgumentReader.device :=
  required.bind fun _ _ => (valueOf _).bind fun _ _ => pure trivial

theorem period : Yields Anything (· = .badSyntax) ArgumentReader.period :=
  required.bind fun _ _ => (valueOf _).bind fun _ _ => pure trivial

theorem threshold : Yields Anything (· = .badSyntax) ArgumentReader.threshold :=
  required.bind fun _ _ => valueOf _

theorem path (operation : Operation) :
    Yields Anything (· = .badSyntax) (ArgumentReader.path operation) := by
  refine required.bind fun word _ => (valueOf _).bind fun path _ => ?_
  split
  · exact pure trivial
  · exact throw rfl

/-! ### Commands -/

/-- A device, a path, and what follows them. -/
theorem onTarget {operation : Operation} {next : DeviceId → Path → ArgumentReader Command}
    (hnext : ∀ device path, Yields Command.ExplainsTable (· = .badSyntax) (next device path)) :
    Yields Command.ExplainsTable (· = .badSyntax) (do
      let device ← ArgumentReader.device
      let path ← ArgumentReader.path operation
      next device path) :=
  device.bind fun device _ => (path operation).bind fun path _ => hnext device path

/-- The end of the arguments, and a command that explains nothing. -/
theorem done {command : Command} (hcommand : ∀ entry, command ≠ .explain entry) :
    Yields Command.ExplainsTable (· = .badSyntax) (do
      ArgumentReader.finish
      return command) :=
  finish.bind fun _ _ => pure fun entry heq => absurd heq (hcommand entry)

theorem readForm (form : CommandForm) (parameter : CommandParameter) :
    Yields Command.ExplainsTable (· = .badSyntax) (Command.readForm form parameter) := by
  cases form with
  | list => exact done nofun
  | onPath =>
      cases parameter with
      | path kind => exact onTarget fun _ _ => done nofun
      | _ => exact throw rfl
  | write => exact onTarget fun _ _ => required.bind fun _ _ => done nofun
  | periods => exact onTarget fun _ _ => period.bind fun _ _ => period.bind fun _ _ => done nofun
  | thresholds =>
      refine onTarget fun _ _ => threshold.bind fun _ _ => threshold.bind fun _ _ => ?_
      refine optional.bind fun last _ => ?_
      cases last with
      | none => exact done nofun
      | some word =>
          simp only [map_eq_pure_bind, bind_assoc, pure_bind]
          exact (valueOf _).bind fun _ _ => done nofun
  | clear => exact onTarget fun _ _ => done nofun
  | execute => exact onTarget fun _ _ => optional.bind fun _ _ => done nofun
  | create => exact onTarget fun _ _ => required.bind fun _ _ => done nofun
  | quit => exact done nofun

theorem readHelp :
    Yields Command.ExplainsTable CommandFailure.IsMistake Command.readHelp := by
  refine optional.bind fun topic _ => (finish.mono .badSyntax).bind fun _ _ => ?_
  cases topic with
  | none => exact pure nofun
  | some word =>
      dsimp only
      cases hfind : CommandEntry.find? (String.ofList word) with
      | none => exact throw (.unknownCommand _)
      | some entry =>
          refine pure ?_
          intro found heq
          obtain rfl := Command.explain.inj heq
          exact (CommandEntry.mem_of_find? hfind).1

end Yields

/-! ## What becomes of lines -/

/-- What is wrong with the arguments of an entry of the table is never its keyword. -/
theorem badSyntax_of_readForm {form : CommandForm} {parameter : CommandParameter}
    {text : List Char} {failure : CommandFailure}
    (h : (Command.readForm form parameter).read text = .error failure) : failure = .badSyntax :=
  (Yields.readForm form parameter).mistake h

/-- What the arguments of a keyword can be read as. -/
theorem ofKeyword_yields (keyword : String) (arguments : List Char) :
    (∀ command, Command.ofKeyword keyword arguments = .ok command → Command.ExplainsTable command) ∧
      ∀ failure, Command.ofKeyword keyword arguments = .error failure → failure.IsMistake := by
  unfold Command.ofKeyword
  split
  · exact ⟨fun _ hread => Yields.readHelp.value hread, fun _ hread => Yields.readHelp.mistake hread⟩
  · cases CommandEntry.find? keyword with
    | none => exact ⟨nofun, fun _ hread => Except.error.inj hread ▸ .unknownCommand keyword⟩
    | some entry =>
        have hform := Yields.readForm entry.form entry.parameter
        refine ⟨fun _ hread => hform.value hread, fun _ hread => ?_⟩
        rw [badSyntax_of_readForm hread]
        exact .badSyntax

theorem ofLine?_yields {line : List Char} {typed : Command.Typed}
    (h : Command.ofLine? line = some typed) :
    (∀ command, typed.command = .ok command → command.ExplainsTable) ∧
      ∀ failure, typed.command = .error failure → failure.IsMistake := by
  obtain ⟨⟨word, arguments⟩, -, rfl⟩ := Option.map_eq_some_iff.mp h
  exact ofKeyword_yields (String.ofList word) arguments

/-- A line of a keyword whose arguments cannot be read asks nothing of the engine, and the operator
is told of the syntax error. -/
theorem dispatch_of_unread (S : Setting η ω) (session : Session η ω) {entry : CommandEntry}
    (hentry : entry ∈ CommandEntry.all) {line : List Char} {arguments : List (List Char)}
    (hwords : Words.ofLine line = entry.keyword.toList :: arguments)
    (hunread : ∀ text command, Words.ofLine text = arguments →
      (Command.readForm entry.form entry.parameter).read text ≠ .ok command) :
    (dispatch S line session).events.calls = [] ∧
      (dispatch S line session).events.texts =
        [session.console.clip (Utf8.encode "Syntax error !")] := by
  obtain ⟨text, htext, htyped⟩ := Command.ofLine?_of_keyword hentry hwords
  have hread : (Command.readForm entry.form entry.parameter).read text = .error .badSyntax := by
    cases hread : (Command.readForm entry.form entry.parameter).read text with
    | ok command => exact absurd hread (hunread text command htext)
    | error failure => rw [badSyntax_of_readForm hread]
  rw [hread] at htyped
  constructor
  · rw [dispatch_calls, htyped]
    rfl
  · rw [(dispatch_handled S session line).texts, handlingOf, htyped]
    rfl

variable {S : Setting η ω} {engine : η} {line : List Char}

/-- A line that is handled is blank, or has a command or a mistake. -/
theorem handlingOf_cases (S : Setting η ω) (engine : η) (line : List Char) :
    handlingOf S engine line = .silent ∨
      (∃ failure, failure.IsMistake ∧ handlingOf S engine line = .fails failure) ∨
      ∃ typed command, Command.ofLine? line = some typed ∧ typed.command = .ok command ∧
        Command.ExplainsTable command ∧ handlingOf S engine line = command.handling S engine := by
  unfold handlingOf
  cases hline : Command.ofLine? line with
  | none => exact Or.inl rfl
  | some typed =>
      obtain ⟨hcommand, hmistake⟩ := ofLine?_yields hline
      rcases typed with ⟨keyword, failure | command⟩
      · exact Or.inr (Or.inl ⟨failure, hmistake failure rfl, rfl⟩)
      · exact Or.inr (Or.inr ⟨_, command, rfl, rfl, hcommand command rfl, rfl⟩)

/-- A request whose payload fails was not submitted for that. -/
theorem Handling.ofPayload_eq_fails {device : DeviceId} {request : α → Request}
    {payload : Except CommandFailure α} {failure : CommandFailure}
    (h : Handling.ofPayload device request payload = .fails failure) :
    payload = .error failure := by
  cases payload with
  | ok payload => exact nomatch h
  | error other => exact congrArg Except.error (Handling.fails.inj h)

theorem Handling.ofPayload_ne_shows {device : DeviceId} {request : α → Request}
    {payload : Except CommandFailure α} {text : String} :
    Handling.ofPayload device request payload ≠ .shows text := by
  cases payload <;> exact nofun

/-- Why a line is not carried out: it is mistaken, a partial write has a plain text, or a creation
has a text that is no payload by the convention of its object. -/
theorem handlingOf_fails {failure : CommandFailure}
    (h : handlingOf S engine line = .fails failure) :
    failure.IsMistake ∨ ∃ device path text,
      EngineLine (Words.ofLine line) (.create device path text) ∧
        S.engine.decode engine path text = [] ∧
        S.fallbacks.parse? path.objectId text = some (.error failure) := by
  rcases handlingOf_cases S engine line with hsilent | ⟨mistake, hmistake, hfails⟩ |
    ⟨typed, command, hline, hcommand, -, hhandling⟩
  · exact nomatch hsilent.symm.trans h
  · obtain rfl := Handling.fails.inj (hfails.symm.trans h)
    exact Or.inl hmistake
  · rw [hhandling] at h
    cases command with
    | write device path text isPartial =>
        have hpayload := Handling.ofPayload_eq_fails h
        unfold Command.writePayload at hpayload
        split at hpayload
        · exact nomatch hpayload
        · split at hpayload
          · exact Or.inl (Except.error.inj hpayload ▸ .badSyntax)
          · exact nomatch hpayload
    | create device path text =>
        have hpayload := Handling.ofPayload_eq_fails h
        unfold Command.createRecords at hpayload
        split at hpayload
        · exact nomatch hpayload
        · rename_i hrecords
          cases hparse : S.fallbacks.parse? path.objectId text with
          | none =>
              rw [hparse] at hpayload
              exact Or.inl (Except.error.inj hpayload ▸ .badSyntax)
          | some parsed =>
              rw [hparse] at hpayload
              refine Or.inr ⟨device, path, text, ?_, by simpa using hrecords, ?_⟩
              · exact Command.engineLine_iff.mp ⟨typed, hline, hcommand, rfl⟩
              · rw [hparse]
                exact congrArg some hpayload
    | _ => exact nomatch h

/-- Which texts are shown for a line: the registered devices, the overview, or what a command of
the table is for. -/
theorem handlingOf_shows {text : String} (h : handlingOf S engine line = .shows text) :
    text = (S.engine.registry engine).listing ∨ text = CommandEntry.overview ∨
      ∃ entry ∈ CommandEntry.all, text = entry.explanation ++ "\n" := by
  rcases handlingOf_cases S engine line with hsilent | ⟨mistake, -, hfails⟩ |
    ⟨typed, command, -, -, htable, hhandling⟩
  · exact nomatch hsilent.symm.trans h
  · exact nomatch hfails.symm.trans h
  · rw [hhandling] at h
    cases command with
    | list => exact Or.inl (Handling.shows.inj h).symm
    | overview => exact Or.inr (Or.inl (Handling.shows.inj h).symm)
    | explain entry =>
        exact Or.inr (Or.inr ⟨entry, htable entry rfl, (Handling.shows.inj h).symm⟩)
    | write device path text isPartial => exact absurd h Handling.ofPayload_ne_shows
    | create device path text => exact absurd h Handling.ofPayload_ne_shows
    | _ => exact nomatch h

end DeviceConsole
