import DeviceConsole.Proofs.Document.Assignment
import DeviceConsole.Proofs.Settings.Layers
import DeviceConsole.Proofs.Settings.PlainVariables

/-!
# Named options

Two of the settings are options with names: the address family and the log format.  A flag takes a
name in any case, and a variable or a document takes it as it is spelled only.  So a name with
capitals is an option as a flag and a mistake elsewhere, and every other text of letters and digits
means the same wherever it is given.

Main results:

- Theorem {lit}`NamedOption.read_interpret`: a variable of letters and digits is read as its text.
- Theorem {lit}`NamedOption.load_of_givesOnly`: what is loaded when one layer alone gives a text.
- Theorem {lit}`NamedOption.setting?_lowerAscii_eq_iff`: the texts that a flag alone takes.
- Theorem {lit}`namedOption_hasNoCapitals`: the texts that mean the same in every layer.
-/

namespace DeviceConsole

/-- One of the two settings that are options with names. -/
inductive NamedOption where
  | addressFamily
  | logFormat
deriving DecidableEq, Repr

namespace NamedOption

/-- The option's key among the settings. -/
def key : NamedOption → SettingKey
  | addressFamily => .addressFamily
  | logFormat => .logFormat

/-- The names that the option may have. -/
def names : NamedOption → List String
  | addressFamily => [AddressFamily.ipv6, AddressFamily.ipv4].map AddressFamily.name
  | logFormat => [LogFormat.json, LogFormat.compact].map LogFormat.name

/-- The settings of a document that has nothing but the option, under exactly the given name. -/
def setting? : NamedOption → String → Option Settings
  | addressFamily, text =>
      (AddressFamily.ofName? text).map fun family =>
        { Settings.empty with addressFamily := some family }
  | logFormat, text =>
      (LogFormat.ofName? text).map fun format => { Settings.empty with logFormat := some format }

variable {option : NamedOption} {text : String}

/-! ## Names -/

theorem isSome_setting?_iff : (option.setting? text).isSome ↔ text ∈ option.names := by
  cases option with
  | addressFamily =>
      simp only [setting?, Option.isSome_map, AddressFamily.ofName?, List.find?_isSome, names,
        List.mem_map, beq_iff_eq]
  | logFormat =>
      simp only [setting?, Option.isSome_map, LogFormat.ofName?, List.find?_isSome, names,
        List.mem_map, beq_iff_eq]

theorem ne_empty_of_setting? {settings : Settings} (h : option.setting? text = some settings) :
    settings ≠ .empty := by
  cases option <;>
    (obtain ⟨_, -, rfl⟩ := Option.map_eq_some_iff.mp h
     simp [Settings.empty])

/-- No name has capitals. -/
theorem lowerAscii_of_mem_names (h : text ∈ option.names) : lowerAscii text = text := by
  have hnames : ∀ name ∈ option.names, lowerAscii name = name := by
    cases option <;> decide +kernel
  exact hnames text h

/-- The texts that are an option in small letters only when they are one as they stand are those
without a capital, and those that are none even so. -/
theorem setting?_lowerAscii_eq_iff :
    option.setting? (lowerAscii text) = option.setting? text ↔
      ¬ (lowerAscii text ∈ option.names ∧ lowerAscii text ≠ text) := by
  constructor
  · rintro hsame ⟨hname, hcapital⟩
    have htext : text ∈ option.names := by
      rwa [← isSome_setting?_iff, ← hsame, isSome_setting?_iff]
    exact hcapital (lowerAscii_of_mem_names htext)
  · intro hnone
    by_cases hlower : lowerAscii text = text
    · rw [hlower]
    · have hsmall : lowerAscii text ∉ option.names := fun hname => hnone ⟨hname, hlower⟩
      have htext : text ∉ option.names := fun hname => hlower (lowerAscii_of_mem_names hname)
      rw [← isSome_setting?_iff, Option.not_isSome_iff_eq_none] at hsmall htext
      rw [hsmall, htext]

/-! ## One value as a layer -/

theorem read_text (option : NamedOption) (text : String) :
    (Layer.only option.key (.plain (.text text))).read = option.setting? text := by
  cases option with
  | addressFamily =>
      simp only [Layer.read, Layer.only, key, Layer.field, LayerValue.family?, setting?]
      cases h : AddressFamily.ofName? text <;> simp [h, LayerValue.name?, Settings.empty]
  | logFormat =>
      simp only [Layer.read, Layer.only, key, Layer.field, LayerValue.format?, setting?]
      cases h : LogFormat.ofName? text <;> simp [h, LayerValue.name?, Settings.empty]

/-- An integer is no option, and nothing else is that is neither a text nor nothing. -/
theorem read_eq_none (option : NamedOption) {value : PlainValue}
    (hvalue : (∃ n, value = .integer n) ∨ value = .other) :
    (Layer.only option.key (.plain value)).read = none := by
  rcases hvalue with ⟨n, rfl⟩ | rfl <;> cases option <;> rfl

/-- The names of options are texts as variables. -/
theorem interpret_of_mem_names (h : text ∈ option.names) :
    VariableValue.interpret text = .plain (.text text) := by
  have hnames : ∀ name ∈ option.names, VariableValue.interpret name = .plain (.text name) := by
    cases option <;> decide +kernel
  exact hnames text h

/-- A variable of letters and digits is read as its text: what is taken for something else is the
name of no option. -/
theorem read_interpret (option : NamedOption) (htext : text.toList.all Char.isAlphanum) :
    (Layer.only option.key (VariableValue.interpret text)).read = option.setting? text := by
  by_cases hname : text ∈ option.names
  · rw [interpret_of_mem_names hname, read_text]
  · have hnone : option.setting? text = none := by
      rwa [← isSome_setting?_iff, Option.not_isSome_iff_eq_none] at hname
    rcases VariableValue.interpret_of_isAlphanum htext with hitself | ⟨n, hinteger⟩ | hother
    · rw [hitself, read_text]
    · rw [hinteger, hnone, read_eq_none option (.inl ⟨n, rfl⟩)]
    · rw [hother, hnone, read_eq_none option (.inr rfl)]

end NamedOption

/-! ## One layer alone -/

/-- A flag with its value behind an equals sign. -/
def Flag.word (flag : Flag) (value : String) : String :=
  "--" ++ flag.name ++ "=" ++ value

namespace CommandLine

/-- The word of a flag is the flag with its value. -/
theorem occurrences_word (flag : Flag) (value : String) :
    occurrences [flag.word value] = some [(flag, value)] := by
  have hname : flag.name.toList.all (· ≠ '=') := by
    cases flag with
    | setting key => cases key <;> decide +kernel
    | document => decide +kernel
  have hne : flag.name.toList ≠ [] := by
    cases flag with
    | setting key => cases key <;> decide +kernel
    | document => decide +kernel
  have hstops : Stops (· ≠ '=') ('=' :: value.toList) := stops_cons_iff.mpr (by decide)
  have hword : (flag.word value).toList =
      '-' :: '-' :: (flag.name.toList ++ '=' :: value.toList) := by
    simp [Flag.word]
  have hlong : FlagWord.ofLong (flag.name.toList ++ '=' :: value.toList) =
      .complete flag value := by
    rw [FlagWord.ofLong, takeWhile_append_of_stops hname hstops,
      dropWhile_append_of_stops hname hstops, Flag.ofName?_name]
    simp only [String.ofList_toList]
  have htext : FlagWord.ofText (flag.word value).toList = .complete flag value := by
    obtain ⟨c, rest, hcons⟩ := List.exists_cons_of_ne_nil hne
    rw [hword, ← hlong, hcons]
    rfl
  simp only [occurrences, htext, Option.map_some]

theorem lookup_singleton (flag other : Flag) (value : String) :
    [(flag, value)].lookup other = if other = flag then some value else none := by
  by_cases h : other = flag
  · rw [h, List.lookup_cons_self, if_pos rfl]
  · rw [List.lookup_cons, beq_eq_false_iff_ne.mpr h, if_neg h]
    rfl

/-- A flag of a named option alone, whose value is taken in any case. -/
theorem read_of_flag {arguments : List String} {option : NamedOption} {text : String}
    (h : occurrences arguments = some [(.setting option.key, text)]) :
    read arguments = (option.setting? (lowerAscii text)).map (⟨·, none⟩) := by
  have hnodup : ([(Flag.setting option.key, text)].map (·.1)).Nodup := by simp
  rw [read, h, Option.bind_some, ofOccurrences, if_pos hnodup]
  cases option with
  | addressFamily =>
      simp only [NamedOption.setting?, NamedOption.key]
      change _ = ((AddressFamily.ofAnyCase? text).map _).map _
      cases hfound : AddressFamily.ofAnyCase? text <;>
        simp [lookup_singleton, field, hfound, Settings.empty]
  | logFormat =>
      simp only [NamedOption.setting?, NamedOption.key]
      change _ = ((LogFormat.ofAnyCase? text).map _).map _
      cases hfound : LogFormat.ofAnyCase? text <;>
        simp [lookup_singleton, field, hfound, Settings.empty]

/-- A command line without flags sets nothing. -/
theorem read_of_no_flags {arguments : List String} (h : occurrences arguments = some []) :
    read arguments = some ⟨.empty, none⟩ := by
  rw [read, h]
  rfl

/-- A command line with the path of a document alone. -/
theorem read_of_path {arguments : List String} {path : String}
    (h : occurrences arguments = some [(.document, path)]) :
    read arguments = some ⟨.empty, some path⟩ := by
  rw [read, h]
  rfl

end CommandLine

theorem Layer.empty_upon (layer : Layer) : Layer.empty.upon layer = layer := by
  funext key
  unfold upon empty
  cases layer key <;> rfl

theorem Settings.layer_empty : Settings.empty.layer = .empty := by
  funext key
  cases key <;> rfl

namespace Sources

/-- Whether a text is given for a setting in one layer, and the layers have nothing else. -/
def GivesOnly (sources : Sources) (key : SettingKey) (text : String) : Level → Prop
  | .flags =>
      CommandLine.occurrences sources.arguments = some [(.setting key, text)] ∧
        Variable.AreAlien sources.environment
  | .environment =>
      CommandLine.occurrences sources.arguments = some [] ∧
        ∃ front back, sources.environment = front ++ (key.variableName, text) :: back ∧
          Variable.AreAlien front ∧ Variable.AreAlien back
  | .document =>
      ∃ path written, CommandLine.occurrences sources.arguments = some [(.document, path)] ∧
        Variable.AreAlien sources.environment ∧ sources.document path = some written ∧
        Document.parse? written = some [(key.name, .text text)]

/-- A text as the value of a flag, of a variable, or in quotes in a document. -/
def spelled (key : SettingKey) (text : String) : Level → Sources
  | .flags => ⟨[(Flag.setting key).word text], [], fun _ => none⟩
  | .environment => ⟨[], [(key.variableName, text)], fun _ => none⟩
  | .document =>
      let line := Document.assignment key.name.toList text.toList
      ⟨[Flag.document.word "fleet.toml"], [], fun _ => some (String.ofList line)⟩

/-- A text of letters and digits can be given in each layer. -/
theorem givesOnly_spelled {text : String} (htext : text.toList.all Char.isAlphanum)
    (key : SettingKey) (level : Level) : (spelled key text level).GivesOnly key text level := by
  cases level with
  | flags => exact ⟨CommandLine.occurrences_word _ text, nofun⟩
  | environment => exact ⟨rfl, [], [], rfl, nofun, nofun⟩
  | document =>
      have hne : key.name.toList ≠ [] := by cases key <;> decide +kernel
      have hkey : key.name.toList.all Document.isKeyCharacter := by cases key <;> decide +kernel
      have hplain : text.toList.all Document.isPlain := all_of_isAlphanum (by decide +kernel) htext
      have hparse := Document.parse?_assignment hne hkey hplain
      rw [String.ofList_toList, String.ofList_toList] at hparse
      exact ⟨_, _, CommandLine.occurrences_word _ _, nofun, rfl, hparse⟩

/-- The layer of a document with a text for one setting. -/
theorem documentLayer?_of_parse? {sources : Sources} {path written : String} {key : SettingKey}
    {text : String} (hdocument : sources.document path = some written)
    (hparse : Document.parse? written = some [(key.name, .text text)]) :
    sources.documentLayer? path = some (.only key (.plain (.text text))) := by
  have hget (name : String) : Document.Entries.get? [(key.name, .text text)] name =
      if key.name = name then some (.text text) else none := by
    by_cases hname : key.name = name <;> simp [Document.Entries.get?, hname]
  have hextends : Document.Entries.extendsAnother [(key.name, .text text)] = false := by
    rw [Document.Entries.extendsAnother, hget, if_neg (by cases key <;> decide)]
    rfl
  have hlayer : Document.Entries.layer [(key.name, .text text)] =
      .only key (.plain (.text text)) := by
    funext other
    simp only [Document.Entries.layer, hget, Layer.only, SettingKey.name_inj, eq_comm]
    split <;> rfl
  simp only [documentLayer?, hdocument, hparse, Option.bind_eq_bind, Option.bind_some, hextends,
    hlayer, Bool.false_eq_true, if_false]

end Sources

namespace NamedOption

variable {option : NamedOption} {text : String}

/-- What is loaded when one layer alone gives a text for the option. -/
def loaded (option : NamedOption) (text : String) : Sources.Level → Except LoadFailure Settings
  | .flags =>
      match option.setting? (lowerAscii text) with
      | some settings => .ok settings
      | none => .error .flags
  | .environment | .document =>
      match option.setting? text with
      | some settings => .ok settings
      | none => .error .layers

theorem load_of_flag {sources : Sources} (h : sources.GivesOnly option.key text .flags) :
    sources.load = option.loaded text .flags := by
  obtain ⟨hflags, halien⟩ := h
  rw [Sources.load, CommandLine.read_of_flag hflags, loaded]
  cases hsetting : option.setting? (lowerAscii text) with
  | none => rfl
  | some settings =>
      have hgiven : ¬ (settings = .empty ∧ (!Layer.empty.isPresent) = true) :=
        fun h => ne_empty_of_setting? hsetting h.1
      simp only [Option.map_some, Variable.layer_of_aliens halien, if_neg hgiven, Layer.upon_empty,
        Sources.readLayers, Settings.read_layer]

theorem load_of_variable (htext : text.toList.all Char.isAlphanum) {sources : Sources}
    (h : sources.GivesOnly option.key text .environment) :
    sources.load = option.loaded text .environment := by
  obtain ⟨hflags, front, back, henvironment, hfront, hback⟩ := h
  have hlayer : Variable.layer sources.environment =
      .only option.key (VariableValue.interpret text) := by
    rw [henvironment, Variable.layer_among_aliens hfront hback]
  have hpresent (value : LayerValue) : (Layer.only option.key value).isPresent = true := by
    cases option <;> rfl
  cases hsetting : option.setting? text <;>
    simp only [Sources.load, CommandLine.read_of_no_flags hflags, hlayer, hpresent, Bool.not_true,
      Bool.false_eq_true, and_false, if_false, Settings.layer_empty, Layer.empty_upon,
      Sources.readLayers, read_interpret option htext, loaded, hsetting]

theorem load_of_document {sources : Sources} (h : sources.GivesOnly option.key text .document) :
    sources.load = option.loaded text .document := by
  obtain ⟨path, written, hflags, halien, hdocument, hparse⟩ := h
  cases hsetting : option.setting? text <;>
    simp only [Sources.load, CommandLine.read_of_path hflags,
      Sources.documentLayer?_of_parse? hdocument hparse, Variable.layer_of_aliens halien,
      Settings.layer_empty, Layer.empty_upon, Sources.readLayers, read_text, loaded, hsetting]

/-- What is loaded when one layer alone gives a text of letters and digits. -/
theorem load_of_givesOnly (htext : text.toList.all Char.isAlphanum) {sources : Sources}
    {level : Sources.Level} (h : sources.GivesOnly option.key text level) :
    sources.load = option.loaded text level := by
  cases level with
  | flags => exact load_of_flag h
  | environment => exact load_of_variable htext h
  | document => exact load_of_document h

/-! ## What a text means in each layer -/

/-- Whether a text means the same in every layer: any two of them alone lead to the same settings,
or both to none. -/
def MeansTheSame (option : NamedOption) (text : String) : Prop :=
  ∀ level other sources sources',
    Sources.GivesOnly sources option.key text level →
      Sources.GivesOnly sources' option.key text other →
        sources.load.toOption = sources'.load.toOption

theorem toOption_loaded_flags (option : NamedOption) (text : String) :
    (option.loaded text .flags).toOption = option.setting? (lowerAscii text) := by
  rw [loaded]
  cases option.setting? (lowerAscii text) <;> rfl

theorem toOption_loaded_of_ne {level : Sources.Level} (hlevel : level ≠ .flags)
    (option : NamedOption) (text : String) :
    (option.loaded text level).toOption = option.setting? text := by
  cases level with
  | flags => exact absurd rfl hlevel
  | environment | document =>
      rw [loaded]
      cases option.setting? text <;> rfl

/-- A text means the same in every layer when it is the same option in any case as it stands. -/
theorem meansTheSame_iff (htext : text.toList.all Char.isAlphanum) :
    option.MeansTheSame text ↔ option.setting? (lowerAscii text) = option.setting? text := by
  constructor
  · intro hsame
    have hflag := Sources.givesOnly_spelled htext option.key .flags
    have hdocument := Sources.givesOnly_spelled htext option.key .document
    have hloads := hsame _ _ _ _ hflag hdocument
    rwa [load_of_givesOnly htext hflag, load_of_givesOnly htext hdocument, toOption_loaded_flags,
      toOption_loaded_of_ne (by decide)] at hloads
  · intro hsame level other sources sources' hgives hother
    have heach (level : Sources.Level) :
        (option.loaded text level).toOption = option.setting? text := by
      by_cases hlevel : level = .flags
      · rw [hlevel, toOption_loaded_flags, hsame]
      · exact toOption_loaded_of_ne hlevel option text
    rw [load_of_givesOnly htext hgives, load_of_givesOnly htext hother, heach, heach]

/-- What becomes of a text for a named option. -/
structure Rule (option : NamedOption) (text : String) : Prop where
  /-- The text can be given in each layer. -/
  spelled : ∀ level, (Sources.spelled option.key text level).GivesOnly option.key text level
  /-- A flag takes the names in any case, and the other layers take them as they are spelled. -/
  loads : ∀ level sources, Sources.GivesOnly sources option.key text level →
    sources.load = option.loaded text level
  /-- A variable and a document never differ. -/
  lower : ∀ sources sources', Sources.GivesOnly sources option.key text .environment →
    Sources.GivesOnly sources' option.key text .document → sources.load = sources'.load
  /-- A flag differs from them for the names with capitals, and for no other text. -/
  same : option.MeansTheSame text ↔ ¬ (lowerAscii text ∈ option.names ∧ lowerAscii text ≠ text)

end NamedOption

/-- A text of letters and digits means the same for an option in every layer, unless it is one of
the option's names with capitals: that is the option as a flag, and nothing as a variable or in a
document. -/
theorem namedOption_hasNoCapitals (option : NamedOption) {text : String}
    (htext : text.toList.all Char.isAlphanum) : option.Rule text where
  spelled := Sources.givesOnly_spelled htext option.key
  loads _ _ h := NamedOption.load_of_givesOnly htext h
  lower sources sources' hvariable hdocument := by
    have hload := NamedOption.load_of_givesOnly htext hvariable
    exact hload.trans (NamedOption.load_of_givesOnly htext hdocument).symm
  same := (NamedOption.meansTheSame_iff htext).trans NamedOption.setting?_lowerAscii_eq_iff

/-- A log format in small letters means the same everywhere. -/
theorem namedOption_hasNoCapitals_json :
    "json".toList.all Char.isAlphanum ∧ NamedOption.logFormat.Rule "json" ∧
      NamedOption.logFormat.setting? "json" =
        some { Settings.empty with logFormat := some .json } :=
  ⟨by decide +kernel, namedOption_hasNoCapitals .logFormat (by decide +kernel), by decide +kernel⟩

/-- A log format in capitals is loaded as a flag, but neither as a variable nor from a document. -/
theorem logFormat_inCapitals :
    "JSON".toList.all Char.isAlphanum ∧ ¬ NamedOption.logFormat.MeansTheSame "JSON" ∧
      (Sources.spelled .logFormat "JSON" .flags).load =
        .ok { Settings.empty with logFormat := some .json } ∧
      (Sources.spelled .logFormat "JSON" .environment).load = .error .layers ∧
      (Sources.spelled .logFormat "JSON" .document).load = .error .layers := by
  have htext : "JSON".toList.all Char.isAlphanum := by decide +kernel
  have hgives := Sources.givesOnly_spelled htext NamedOption.logFormat.key
  refine ⟨htext, ?_, ?_, ?_, ?_⟩
  · rw [NamedOption.meansTheSame_iff htext]
    decide +kernel
  · exact (NamedOption.load_of_givesOnly htext (hgives .flags)).trans (by decide +kernel)
  · exact (NamedOption.load_of_givesOnly htext (hgives .environment)).trans (by decide +kernel)
  · exact (NamedOption.load_of_givesOnly htext (hgives .document)).trans (by decide +kernel)

end DeviceConsole
