import DeviceConsole.Command.Parser
import DeviceConsole.Proofs.Command.Arguments

/-!
# The lines that ask something of the engine

What such a line is, is said here for its words as they stand: a keyword, a device, a path
that suits the keyword, the further arguments of the keyword, and nothing else.  The
readers, which take one word after the other off a cursor, accept exactly these lines.

Main results:

- Theorem {lit}`engineLine_of_readForm`: what the reader of a keyword accepts is such a line.
- Theorem {lit}`readForm_of_engineLine`: the reader of its keyword accepts every such line.
- Theorem {lit}`engineLine_iff`: a line has a command that asks something of the engine
  exactly when it is such a line.
-/

namespace DeviceConsole

/-! ## The grammar -/

/-- The keywords of the requests that need only a path. -/
def pathKeywords : List (String × PathRequest) :=
  [("read", .read), ("disc", .discover), ("del", .delete), ("observe", .observe),
    ("cancel", .cancelObserve)]

/-- The keywords of full and of partial writes. -/
def writeKeywords : List (String × Bool) :=
  [("write", false), ("update", true)]

/-- The words of a line that asks something of the engine, and what it asks. -/
inductive EngineLine : List (List Char) → Command → Prop where
  | onPath {keyword : String} {kind : PathRequest} {first second : List Char}
      {device : DeviceId} {path : Path} (hkeyword : (keyword, kind) ∈ pathKeywords)
      (hdevice : IsNumeral first device.toNat) (hpath : IsTarget kind.operation second path) :
      EngineLine [keyword.toList, first, second] (.submit device (.onPath kind path))
  | write {keyword : String} {isPartial : Bool} {first second : List Char} {device : DeviceId}
      {path : Path} (hkeyword : (keyword, isPartial) ∈ writeKeywords)
      (hdevice : IsNumeral first device.toNat) (hpath : IsTarget .write second path)
      (text : List Char) :
      EngineLine [keyword.toList, first, second, text]
        (.write device path (String.ofList text) isPartial)
  | time {first second least most : List Char} {device : DeviceId} {path : Path}
      {min max : UInt32} (hdevice : IsNumeral first device.toNat)
      (hpath : IsTarget .writeAttributes second path) (hmin : IsNumeral least min.toNat)
      (hmax : IsNumeral most max.toNat) :
      EngineLine ["time".toList, first, second, least, most]
        (.submit device (.writeAttributes path (.periods min max)))
  | attr {first second less greater : List Char} {last : Option (List Char)}
      {device : DeviceId} {path : Path} {lessThan greaterThan : Binary64}
      {step : Option Binary64} (hdevice : IsNumeral first device.toNat)
      (hpath : IsTarget .writeAttributes second path) (hless : IsThreshold less lessThan)
      (hgreater : IsThreshold greater greaterThan) (hstep : Option.Rel IsThreshold last step) :
      EngineLine ("attr".toList :: first :: second :: less :: greater :: last.toList)
        (.submit device (.writeAttributes path (.thresholds lessThan greaterThan step)))
  | clear {first second : List Char} {device : DeviceId} {path : Path}
      (hdevice : IsNumeral first device.toNat) (hpath : IsTarget .writeAttributes second path) :
      EngineLine ["clear".toList, first, second]
        (.submit device (.writeAttributes path .clear))
  | exec {first second : List Char} {device : DeviceId} {path : Path}
      (hdevice : IsNumeral first device.toNat) (hpath : IsTarget .execute second path)
      (argument : Option (List Char)) :
      EngineLine ("exec".toList :: first :: second :: argument.toList)
        (.submit device (.execute path (argument.map String.ofList)))
  | create {first second : List Char} {device : DeviceId} {path : Path}
      (hdevice : IsNumeral first device.toNat) (hpath : IsTarget .create second path)
      (text : List Char) :
      EngineLine ["create".toList, first, second, text]
        (.create device path (String.ofList text))

/-- Whether a command asks something of the engine. -/
def Command.asksEngine : Command → Bool
  | submit _ _ | write _ _ _ _ | create _ _ _ => true
  | _ => false

/-! ## The readers accept the grammar -/

namespace Command

open ArgumentReader

variable {text : List Char} {command : Command}

/-! ### From readers to lines -/

theorem engineLine_of_readOnPath {keyword : String} {kind : PathRequest}
    (hkeyword : (keyword, kind) ∈ pathKeywords)
    (hread : (readOnPath kind).read text = .ok command) :
    EngineLine (keyword.toList :: Words.ofLine text) command := by
  obtain ⟨-, first, second, -, device, path, hwords, hdevice, hpath, rfl, rfl, rfl⟩ :=
    (Takes.onTarget fun device path =>
      Takes.done (submit device (.onPath kind path))).read_iff.mp hread
  rw [hwords]
  exact EngineLine.onPath hkeyword hdevice hpath

theorem engineLine_of_readWrite {keyword : String} {isPartial : Bool}
    (hkeyword : (keyword, isPartial) ∈ writeKeywords)
    (hread : (readWrite isPartial).read text = .ok command) :
    EngineLine (keyword.toList :: Words.ofLine text) command := by
  obtain ⟨-, first, second, -, device, path, hwords, hdevice, hpath, word, rfl, rfl, rfl⟩ :=
    (Takes.onTarget fun device path => Takes.lastWord fun word =>
      write device path (String.ofList word) isPartial).read_iff.mp hread
  rw [hwords]
  exact EngineLine.write hkeyword hdevice hpath word

theorem engineLine_of_readPeriods (hread : readPeriods.read text = .ok command) :
    EngineLine ("time".toList :: Words.ofLine text) command := by
  obtain ⟨-, first, second, -, device, path, hwords, hdevice, hpath, least, most, min, max, rfl,
    hmin, hmax, rfl, rfl⟩ :=
    (Takes.onTarget fun device path => Takes.periods fun min max =>
      submit device (.writeAttributes path (.periods min max))).read_iff.mp hread
  rw [hwords]
  exact EngineLine.time hdevice hpath hmin hmax

theorem engineLine_of_readThresholds (hread : readThresholds.read text = .ok command) :
    EngineLine ("attr".toList :: Words.ofLine text) command := by
  obtain ⟨-, first, second, -, device, path, hwords, hdevice, hpath, less, greater, last,
    lessThan, greaterThan, step, rfl, hless, hgreater, hstep, rfl, rfl⟩ :=
    (Takes.onTarget fun device path => Takes.thresholds fun lessThan greaterThan step =>
      submit device
        (.writeAttributes path (.thresholds lessThan greaterThan step))).read_iff.mp hread
  rw [hwords]
  exact EngineLine.attr hdevice hpath hless hgreater hstep

theorem engineLine_of_readClear (hread : readClear.read text = .ok command) :
    EngineLine ("clear".toList :: Words.ofLine text) command := by
  obtain ⟨-, first, second, -, device, path, hwords, hdevice, hpath, rfl, rfl, rfl⟩ :=
    (Takes.onTarget fun device path =>
      Takes.done (submit device (.writeAttributes path .clear))).read_iff.mp hread
  rw [hwords]
  exact EngineLine.clear hdevice hpath

theorem engineLine_of_readExecute (hread : readExecute.read text = .ok command) :
    EngineLine ("exec".toList :: Words.ofLine text) command := by
  obtain ⟨-, first, second, -, device, path, hwords, hdevice, hpath, argument, rfl, rfl, rfl⟩ :=
    (Takes.onTarget fun device path => Takes.lastOptional fun argument =>
      submit device (.execute path (argument.map String.ofList))).read_iff.mp hread
  rw [hwords]
  exact EngineLine.exec hdevice hpath argument

theorem engineLine_of_readCreate (hread : readCreate.read text = .ok command) :
    EngineLine ("create".toList :: Words.ofLine text) command := by
  obtain ⟨-, first, second, -, device, path, hwords, hdevice, hpath, word, rfl, rfl, rfl⟩ :=
    (Takes.onTarget fun device path => Takes.lastWord fun word =>
      create device path (String.ofList word)).read_iff.mp hread
  rw [hwords]
  exact EngineLine.create hdevice hpath word

/-- A reader of no arguments has only its own command. -/
theorem eq_of_bare {only : Command} (hread : (bare only).read text = .ok command) :
    command = only := by
  obtain ⟨-, -, hcommand, -⟩ := (Takes.done only).read_iff.mp hread
  exact hcommand

/-- What a keyword's reader makes of the arguments, the grammar says of the line. -/
theorem engineLine_of_readForm {entry : CommandEntry} (hentry : entry ∈ CommandEntry.all)
    (hread : (readForm entry.form entry.parameter).read text = .ok command)
    (hasks : command.asksEngine) :
    EngineLine (entry.keyword.toList :: Words.ofLine text) command := by
  simp only [CommandEntry.all, List.mem_cons, List.not_mem_nil, or_false] at hentry
  rcases hentry with
    rfl | rfl | rfl | rfl | rfl | rfl | rfl | rfl | rfl | rfl | rfl | rfl | rfl | rfl
  · rw [eq_of_bare hread] at hasks
    simp [asksEngine] at hasks
  · exact engineLine_of_readOnPath (by simp [pathKeywords]) hread
  · exact engineLine_of_readOnPath (by simp [pathKeywords]) hread
  · exact engineLine_of_readWrite (by simp [writeKeywords]) hread
  · exact engineLine_of_readWrite (by simp [writeKeywords]) hread
  · exact engineLine_of_readPeriods hread
  · exact engineLine_of_readThresholds hread
  · exact engineLine_of_readClear hread
  · exact engineLine_of_readExecute hread
  · exact engineLine_of_readOnPath (by simp [pathKeywords]) hread
  · exact engineLine_of_readCreate hread
  · exact engineLine_of_readOnPath (by simp [pathKeywords]) hread
  · exact engineLine_of_readOnPath (by simp [pathKeywords]) hread
  · rw [eq_of_bare hread] at hasks
    simp [asksEngine] at hasks

/-- A question for help asks nothing of the engine. -/
theorem asksEngine_of_readHelp (hread : readHelp.read text = .ok command) :
    command.asksEngine = false := by
  obtain ⟨topic, middle, hmiddle⟩ := exists_of_read_bind hread
  obtain ⟨-, rest, hrest⟩ := exists_of_read_bind hmiddle
  cases topic with
  | none =>
      obtain rfl : overview = command := Except.ok.inj hrest
      rfl
  | some word =>
      cases hfind : CommandEntry.find? (String.ofList word) with
      | none =>
          simp only [hfind] at hrest
          exact nomatch hrest
      | some entry =>
          simp only [hfind] at hrest
          obtain rfl : explain entry = command := Except.ok.inj hrest
          rfl

/-! ### From lines to readers -/

/-- The entry with a keyword is found by it. -/
theorem find?_keyword : ∀ entry ∈ CommandEntry.all,
    CommandEntry.find? entry.keyword = some entry ∧ entry.keyword ≠ "help" := by
  decide +kernel

theorem entry_of_pathKeyword {keyword : String} {kind : PathRequest}
    (hkeyword : (keyword, kind) ∈ pathKeywords) :
    ∃ entry ∈ CommandEntry.all,
      entry.keyword = keyword ∧ entry.form = .onPath ∧ entry.parameter = .path kind := by
  simp only [pathKeywords, List.mem_cons, List.not_mem_nil, or_false, Prod.mk.injEq] at hkeyword
  rcases hkeyword with ⟨rfl, rfl⟩ | ⟨rfl, rfl⟩ | ⟨rfl, rfl⟩ | ⟨rfl, rfl⟩ | ⟨rfl, rfl⟩ <;>
    simp [CommandEntry.all]

theorem entry_of_writeKeyword {keyword : String} {isPartial : Bool}
    (hkeyword : (keyword, isPartial) ∈ writeKeywords) :
    ∃ entry ∈ CommandEntry.all,
      entry.keyword = keyword ∧ entry.form = .write ∧ entry.parameter = .write isPartial := by
  simp only [writeKeywords, List.mem_cons, List.not_mem_nil, or_false, Prod.mk.injEq] at hkeyword
  rcases hkeyword with ⟨rfl, rfl⟩ | ⟨rfl, rfl⟩ <;> simp [CommandEntry.all]

section Arguments

variable {first second : List Char} {device : DeviceId} {path : Path}

theorem readOnPath_eq_ok {kind : PathRequest} (hwords : Words.ofLine text = [first, second])
    (hdevice : IsNumeral first device.toNat) (hpath : IsTarget kind.operation second path) :
    (readOnPath kind).read text = .ok (submit device (.onPath kind path)) :=
  (Takes.onTarget fun device path => Takes.done (submit device (.onPath kind path))).read_iff.mpr
    ⟨[], first, second, [], device, path, hwords, hdevice, hpath, rfl, rfl, rfl⟩

theorem readWrite_eq_ok {word : List Char} {isPartial : Bool}
    (hwords : Words.ofLine text = [first, second, word])
    (hdevice : IsNumeral first device.toNat) (hpath : IsTarget .write second path) :
    (readWrite isPartial).read text = .ok (write device path (String.ofList word) isPartial) :=
  (Takes.onTarget fun device path => Takes.lastWord fun word =>
    write device path (String.ofList word) isPartial).read_iff.mpr
    ⟨[], first, second, [word], device, path, hwords, hdevice, hpath, word, rfl, rfl, rfl⟩

theorem readPeriods_eq_ok {least most : List Char} {min max : UInt32}
    (hwords : Words.ofLine text = [first, second, least, most])
    (hdevice : IsNumeral first device.toNat) (hpath : IsTarget .writeAttributes second path)
    (hmin : IsNumeral least min.toNat) (hmax : IsNumeral most max.toNat) :
    readPeriods.read text = .ok (submit device (.writeAttributes path (.periods min max))) :=
  (Takes.onTarget fun device path => Takes.periods fun min max =>
    submit device (.writeAttributes path (.periods min max))).read_iff.mpr
    ⟨[], first, second, [least, most], device, path, hwords, hdevice, hpath, least, most, min, max,
      rfl, hmin, hmax, rfl, rfl⟩

theorem readThresholds_eq_ok {less greater : List Char} {last : Option (List Char)}
    {lessThan greaterThan : Binary64} {step : Option Binary64}
    (hwords : Words.ofLine text = first :: second :: less :: greater :: last.toList)
    (hdevice : IsNumeral first device.toNat) (hpath : IsTarget .writeAttributes second path)
    (hless : IsThreshold less lessThan) (hgreater : IsThreshold greater greaterThan)
    (hstep : Option.Rel IsThreshold last step) :
    readThresholds.read text =
      .ok (submit device (.writeAttributes path (.thresholds lessThan greaterThan step))) :=
  (Takes.onTarget fun device path => Takes.thresholds fun lessThan greaterThan step =>
    submit device (.writeAttributes path (.thresholds lessThan greaterThan step))).read_iff.mpr
    ⟨[], first, second, less :: greater :: last.toList, device, path, hwords, hdevice, hpath,
      less, greater, last, lessThan, greaterThan, step, rfl, hless, hgreater, hstep, rfl, rfl⟩

theorem readClear_eq_ok (hwords : Words.ofLine text = [first, second])
    (hdevice : IsNumeral first device.toNat) (hpath : IsTarget .writeAttributes second path) :
    readClear.read text = .ok (submit device (.writeAttributes path .clear)) :=
  (Takes.onTarget fun device path =>
    Takes.done (submit device (.writeAttributes path .clear))).read_iff.mpr
    ⟨[], first, second, [], device, path, hwords, hdevice, hpath, rfl, rfl, rfl⟩

theorem readExecute_eq_ok {argument : Option (List Char)}
    (hwords : Words.ofLine text = first :: second :: argument.toList)
    (hdevice : IsNumeral first device.toNat) (hpath : IsTarget .execute second path) :
    readExecute.read text =
      .ok (submit device (.execute path (argument.map String.ofList))) :=
  (Takes.onTarget fun device path => Takes.lastOptional fun argument =>
    submit device (.execute path (argument.map String.ofList))).read_iff.mpr
    ⟨[], first, second, argument.toList, device, path, hwords, hdevice, hpath, argument,
      rfl, rfl, rfl⟩

theorem readCreate_eq_ok {word : List Char} (hwords : Words.ofLine text = [first, second, word])
    (hdevice : IsNumeral first device.toNat) (hpath : IsTarget .create second path) :
    readCreate.read text = .ok (create device path (String.ofList word)) :=
  (Takes.onTarget fun device path => Takes.lastWord fun word =>
    create device path (String.ofList word)).read_iff.mpr
    ⟨[], first, second, [word], device, path, hwords, hdevice, hpath, word, rfl, rfl, rfl⟩

end Arguments

/-- What the grammar says of a line, the reader of its keyword makes of the arguments. -/
theorem readForm_of_engineLine {words : List (List Char)} (hline : EngineLine words command) :
    ∃ keyword arguments form parameter, words = keyword.toList :: arguments ∧
      (∃ entry ∈ CommandEntry.all,
        entry.keyword = keyword ∧ entry.form = form ∧ entry.parameter = parameter) ∧
      ∀ text, Words.ofLine text = arguments →
        (readForm form parameter).read text = .ok command := by
  cases hline with
  | onPath hkeyword hdevice hpath =>
      exact ⟨_, _, _, _, rfl, entry_of_pathKeyword hkeyword,
        fun _ hwords => readOnPath_eq_ok hwords hdevice hpath⟩
  | @write keyword isPartial _ _ _ _ hkeyword hdevice hpath word =>
      refine ⟨_, _, _, _, rfl, entry_of_writeKeyword hkeyword, fun _ hwords => ?_⟩
      have hpartial : (CommandParameter.write isPartial == .write true) = isPartial := by
        cases isPartial <;> rfl
      rw [readForm, hpartial]
      exact readWrite_eq_ok hwords hdevice hpath
  | time hdevice hpath hmin hmax =>
      exact ⟨"time", _, .periods, .none, rfl, by simp [CommandEntry.all],
        fun _ hwords => readPeriods_eq_ok hwords hdevice hpath hmin hmax⟩
  | attr hdevice hpath hless hgreater hstep =>
      exact ⟨"attr", _, .thresholds, .none, rfl, by simp [CommandEntry.all],
        fun _ hwords => readThresholds_eq_ok hwords hdevice hpath hless hgreater hstep⟩
  | clear hdevice hpath =>
      exact ⟨"clear", _, .clear, .none, rfl, by simp [CommandEntry.all],
        fun _ hwords => readClear_eq_ok hwords hdevice hpath⟩
  | exec hdevice hpath argument =>
      exact ⟨"exec", _, .execute, .none, rfl, by simp [CommandEntry.all],
        fun _ hwords => readExecute_eq_ok hwords hdevice hpath⟩
  | create hdevice hpath word =>
      exact ⟨"create", _, .create, .none, rfl, by simp [CommandEntry.all],
        fun _ hwords => readCreate_eq_ok hwords hdevice hpath⟩

theorem asksEngine_of_engineLine {words : List (List Char)} (hline : EngineLine words command) :
    command.asksEngine := by
  cases hline <;> rfl

/-! ### Whole lines -/

/-- A line with a keyword of the table is read by the form of the entry. -/
theorem ofLine?_of_keyword {entry : CommandEntry} (hentry : entry ∈ CommandEntry.all)
    {line : List Char} {arguments : List (List Char)}
    (hwords : Words.ofLine line = entry.keyword.toList :: arguments) :
    ∃ text, Words.ofLine text = arguments ∧
      ofLine? line = some ⟨entry.keyword, (readForm entry.form entry.parameter).read text⟩ := by
  obtain ⟨text, hnext, htext⟩ := Words.next?_of_ofLine hwords
  obtain ⟨hfind, hhelp⟩ := find?_keyword entry hentry
  refine ⟨text, htext, ?_⟩
  rw [ofLine?, hnext, Option.map_some]
  dsimp only
  rw [String.ofList_toList, ofKeyword, if_neg hhelp, hfind]

/-- The keyword of the list alone asks for the list. -/
theorem ofLine?_of_list {line : List Char} (hwords : Words.ofLine line = ["list".toList]) :
    ofLine? line = some ⟨"list", .ok .list⟩ := by
  obtain ⟨entry, hentry, hkeyword, hform⟩ : ∃ entry ∈ CommandEntry.all,
      entry.keyword = "list" ∧ entry.form = .list := by
    simp [CommandEntry.all]
  rw [← hkeyword] at hwords
  obtain ⟨text, htext, htyped⟩ := ofLine?_of_keyword hentry hwords
  have hread : (readForm .list entry.parameter).read text = .ok .list :=
    (Takes.done list).read_iff.mpr ⟨[], htext, rfl, rfl⟩
  rw [htyped, hform, hread, hkeyword]

/-- A line asks something of the engine exactly when its words are a line of the grammar. -/
theorem engineLine_iff {line : List Char} :
    (∃ typed, ofLine? line = some typed ∧ typed.command = .ok command ∧ command.asksEngine) ↔
      EngineLine (Words.ofLine line) command := by
  constructor
  · rintro ⟨typed, hline, hcommand, hasks⟩
    rw [ofLine?, Option.map_eq_some_iff] at hline
    obtain ⟨⟨word, arguments⟩, hnext, rfl⟩ := hline
    rw [Words.ofLine_of_next? hnext]
    simp only [ofKeyword] at hcommand
    split at hcommand
    · rw [asksEngine_of_readHelp hcommand] at hasks
      simp at hasks
    · split at hcommand
      · rename_i entry hfind
        obtain ⟨hentry, hkeyword⟩ := CommandEntry.mem_of_find? hfind
        have hword : entry.keyword.toList = word := by rw [hkeyword, String.toList_ofList]
        rw [← hword]
        exact engineLine_of_readForm hentry hcommand hasks
      · simp at hcommand
  · intro hline
    obtain ⟨keyword, arguments, form, parameter, hwords, ⟨entry, hentry, rfl, rfl, rfl⟩, hread⟩ :=
      readForm_of_engineLine hline
    obtain ⟨text, htext, htyped⟩ := ofLine?_of_keyword hentry hwords
    exact ⟨_, htyped, hread text htext, asksEngine_of_engineLine hline⟩

end Command

end DeviceConsole
