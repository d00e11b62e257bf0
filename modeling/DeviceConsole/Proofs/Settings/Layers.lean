import DeviceConsole.Settings.Load
import Mathlib.Logic.Function.Basic

/-!
# How layers of settings combine

A setting is what the topmost layer that names it says: the command line, the variables, or the
document.  Settings do not come into each other's way, so a layer that says something else of one
setting changes that setting at most, and not even that one when a layer above names it.

A layer is well formed when each of its values is one for its setting.  A table is none, although
the name of an option may be written as one: tables of two layers are put together entry by entry.

Main results:

- Definition {lit}`Settings.value?`: a setting by its key.
- Theorem {lit}`Layer.read_of_fits`: how a well-formed layer is read.
- Theorem {lit}`Sources.load_of_isWellFormed`: what is loaded from well-formed layers.
- Theorem {lit}`load_combines`: each setting comes from the topmost layer that names it, and depends
  on nothing else.
-/

namespace DeviceConsole

/-! ## Settings by their keys -/

/-- The type of a setting. -/
abbrev SettingKey.Value : SettingKey → Type
  | listenHost => String
  | listenPort => UInt16
  | addressFamily => AddressFamily
  | blockSize => UInt16
  | logFilter => String
  | logFormat => LogFormat

/-- What a value of a layer is for a setting. -/
def SettingKey.read? : (key : SettingKey) → LayerValue → Option key.Value
  | listenHost => LayerValue.text?
  | listenPort => LayerValue.word?
  | addressFamily => LayerValue.family?
  | blockSize => LayerValue.word?
  | logFilter => LayerValue.text?
  | logFormat => LayerValue.format?

namespace Settings

/-- A setting by its key. -/
def value? (settings : Settings) : (key : SettingKey) → Option key.Value
  | .listenHost => settings.listenHost
  | .listenPort => settings.listenPort
  | .addressFamily => settings.addressFamily
  | .blockSize => settings.blockSize
  | .logFilter => settings.logFilter
  | .logFormat => settings.logFormat

/-- The settings with given values. -/
def ofValues (values : (key : SettingKey) → Option key.Value) : Settings where
  listenHost := values .listenHost
  listenPort := values .listenPort
  addressFamily := values .addressFamily
  blockSize := values .blockSize
  logFilter := values .logFilter
  logFormat := values .logFormat

@[simp]
theorem value?_ofValues (values : (key : SettingKey) → Option key.Value) (key : SettingKey) :
    (ofValues values).value? key = values key := by
  cases key <;> rfl

end Settings

/-- Layers are read setting by setting. -/
theorem Layer.read_eq_some_iff_value? (layer : Layer) (settings : Settings) :
    layer.read = some settings ↔
      ∀ key : SettingKey, field key.read? (layer key) = some (settings.value? key) := by
  rw [read_eq_some_iff]
  constructor
  · rintro ⟨hhost, hport, hfamily, hblock, hfilter, hformat⟩ key
    cases key with
    | listenHost => exact hhost
    | listenPort => exact hport
    | addressFamily => exact hfamily
    | blockSize => exact hblock
    | logFilter => exact hfilter
    | logFormat => exact hformat
  · intro h
    exact ⟨h .listenHost, h .listenPort, h .addressFamily, h .blockSize, h .logFilter, h .logFormat⟩

/-! ## Well-formed layers -/

/-- Whether a value is one for a setting: nothing, or a plain value of the setting's type. -/
def LayerValue.fits (key : SettingKey) : LayerValue → Bool
  | plain .nothing => true
  | plain value => (key.read? (plain value)).isSome
  | table _ => false

namespace LayerValue

variable {key : SettingKey} {value : LayerValue}

/-- A value for a setting hides what is below it. -/
theorem upon_of_fits (h : value.fits key) (lower : LayerValue) : value.upon lower = value := by
  cases value with
  | plain value => cases lower <;> rfl
  | table entries => exact absurd h (by simp [fits])

/-- Two tables that name an option each name none together. -/
example :
    let upper : LayerValue := .table [("compact", .nothing)]
    let lower : LayerValue := .table [("json", .nothing)]
    upper.format? = some .compact ∧ lower.format? = some .json ∧
      (upper.upon lower).format? = none := by
  decide +kernel

/-- Nothing is no value of any setting. -/
theorem read?_nothing (key : SettingKey) : key.read? (plain .nothing) = none := by
  cases key <;> rfl

theorem field_of_fits (h : value.fits key) :
    Layer.field key.read? (some value) = some (key.read? value) := by
  rcases value with value | entries
  · cases value with
    | nothing => rw [read?_nothing, Layer.field]
    | _ =>
        obtain ⟨found, hfound⟩ := Option.isSome_iff_exists.mp h
        rw [Layer.field, hfound, Option.map_some]
        intro hnothing
        cases hnothing
  · exact absurd h (by simp [fits])

end LayerValue

namespace Layer

/-- Whether all values of a layer are ones for their settings. -/
def fits (layer : Layer) : Bool :=
  SettingKey.all.all fun key => (layer key).all (·.fits key)

theorem fits_iff {layer : Layer} :
    layer.fits ↔ ∀ key value, layer key = some value → value.fits key := by
  rw [fits, List.all_eq_true]
  constructor
  · intro h key value hvalue
    have hkey := h key key.mem_all
    rwa [hvalue] at hkey
  · intro h key _
    cases hvalue : layer key with
    | none => rfl
    | some value => exact h key value hvalue

/-- The settings that the values of a layer are. -/
def settings (layer : Layer) : Settings :=
  .ofValues fun key => (layer key).bind key.read?

/-- A well-formed layer is read as the settings that its values are. -/
theorem read_of_fits {layer : Layer} (h : layer.fits) : layer.read = some layer.settings := by
  rw [read_eq_some_iff_value?]
  intro key
  rw [settings, Settings.value?_ofValues]
  cases hvalue : layer key with
  | none => rfl
  | some value => exact LayerValue.field_of_fits (fits_iff.mp h key value hvalue)

/-- A well-formed layer hides what it names in the layer below. -/
theorem upon_of_fits {upper : Layer} (h : upper.fits) (lower : Layer) (key : SettingKey) :
    upper.upon lower key = (upper key).or (lower key) := by
  unfold upon
  cases habove : upper key with
  | none => cases lower key <;> rfl
  | some above =>
      cases lower key with
      | none => rfl
      | some below =>
          exact congrArg some (LayerValue.upon_of_fits (fits_iff.mp h key above habove) below)

/-- Well-formed layers come to a well-formed one together. -/
theorem fits_upon {upper lower : Layer} (habove : upper.fits) (hbelow : lower.fits) :
    (upper.upon lower).fits := by
  rw [fits_iff]
  intro key value hvalue
  rw [upon_of_fits habove] at hvalue
  rcases Option.or_eq_some_iff.mp hvalue with hupper | ⟨-, hlower⟩
  · exact fits_iff.mp habove key value hupper
  · exact fits_iff.mp hbelow key value hlower

end Layer

namespace Settings

/-- The layer of settings holds their values. -/
theorem read?_layer {settings : Settings} {key : SettingKey} {value : LayerValue}
    (hvalue : settings.layer key = some value) :
    ∃ found, key.read? value = some found ∧ settings.value? key = some found := by
  have hread := (Layer.read_eq_some_iff_value? settings.layer settings).mp settings.read_layer key
  rw [hvalue, Layer.field_of_isDefinite _ (settings.isDefinite_layer key value hvalue)] at hread
  obtain ⟨found, hfound, hkey⟩ := Option.map_eq_some_iff.mp hread
  exact ⟨found, hfound, hkey.symm⟩

theorem bind_read?_layer (settings : Settings) (key : SettingKey) :
    (settings.layer key).bind key.read? = settings.value? key := by
  cases hvalue : settings.layer key with
  | none =>
      have hread := (Layer.read_eq_some_iff_value? settings.layer settings).mp
        settings.read_layer key
      rw [hvalue] at hread
      exact Option.some.inj hread
  | some value =>
      obtain ⟨found, hfound, hkey⟩ := read?_layer hvalue
      rw [Option.bind_some, hfound, hkey]

/-- The layer of settings is well formed. -/
@[simp]
theorem fits_layer (settings : Settings) : settings.layer.fits := by
  rw [Layer.fits_iff]
  intro key value hvalue
  have hdefinite := settings.isDefinite_layer key value hvalue
  obtain ⟨found, hfound, -⟩ := read?_layer hvalue
  rcases value with value | entries
  · cases value with
    | nothing => rfl
    | _ => exact Option.isSome_iff_exists.mpr ⟨found, hfound⟩
  · exact absurd hdefinite (by simp [LayerValue.isDefinite])

end Settings

/-! ## The layers of sources -/

namespace Sources

/-- Where a layer of settings comes from. -/
inductive Level where
  | flags
  | environment
  | document
deriving DecidableEq

/-- The levels above one. -/
def Level.above : Level → List Level
  | flags => []
  | environment => [flags]
  | document => [flags, environment]

/-- The layers of some sources. -/
abbrev Stack :=
  Level → Layer

namespace Stack

/-- What the topmost layer says that names a setting. -/
def top? (stack : Stack) (key : SettingKey) : Option LayerValue :=
  (stack .flags key).or ((stack .environment key).or (stack .document key))

/-- The settings that layers come to. -/
def settings (stack : Stack) : Settings :=
  .ofValues fun key => (stack.top? key).bind key.read?

/-- The layers laid upon each other. -/
def merged (stack : Stack) : Layer :=
  ((stack .flags).upon (stack .environment)).upon (stack .document)

/-- Well-formed layers that are laid upon each other are read as what each topmost one says. -/
theorem read_merged {stack : Stack} (hfits : ∀ level, (stack level).fits) :
    stack.merged.read = some stack.settings := by
  have hupper := Layer.fits_upon (hfits .flags) (hfits .environment)
  have hmerged (key : SettingKey) : stack.merged key = stack.top? key := by
    rw [merged, Layer.upon_of_fits hupper, Layer.upon_of_fits (hfits .flags), Option.or_assoc, top?]
  have hfits : stack.merged.fits := Layer.fits_upon hupper (hfits .document)
  rw [Layer.read_of_fits hfits, Layer.settings, settings]
  simp only [hmerged]

/-- The layers with a value of one layer changed, given or taken away. -/
def alter (stack : Stack) (level : Level) (key : SettingKey) (value? : Option LayerValue) : Stack :=
  Function.update stack level (Function.update (stack level) key value?)

variable {stack : Stack} {level : Level} {key : SettingKey}

/-- A change of one setting is not seen at another. -/
theorem top?_alter_of_ne {other : SettingKey} (hother : other ≠ key)
    (value? : Option LayerValue) :
    (stack.alter level key value?).top? other = stack.top? other := by
  have hsame (place : Level) : stack.alter level key value? place other = stack place other := by
    unfold alter
    by_cases hplace : place = level
    · subst hplace
      rw [Function.update_self, Function.update_of_ne hother]
    · rw [Function.update_of_ne hplace]
  simp only [top?, hsame]

/-- A change below a layer that names the setting is not seen at all. -/
theorem top?_alter_of_above {higher : Level} (hhigher : higher ∈ level.above)
    (hnamed : (stack higher key).isSome) (value? : Option LayerValue) :
    (stack.alter level key value?).top? key = stack.top? key := by
  obtain ⟨value, hvalue⟩ := Option.isSome_iff_exists.mp hnamed
  have hsame (place : Level) (hplace : place ≠ level) :
      stack.alter level key value? place = stack place :=
    Function.update_of_ne hplace _ _
  unfold top?
  cases level with
  | flags => exact absurd hhigher List.not_mem_nil
  | environment =>
      obtain rfl := List.mem_singleton.mp hhigher
      rw [hsame .flags (by decide), hvalue, Option.some_or, Option.some_or]
  | document =>
      rw [hsame .flags (by decide), hsame .environment (by decide)]
      rcases List.mem_cons.mp hhigher with rfl | hhigher
      · rw [hvalue, Option.some_or, Option.some_or]
      · obtain rfl := List.mem_singleton.mp hhigher
        rw [hvalue, Option.some_or, Option.some_or]

end Stack

/-- The layer below all others: that of the document, or none when no document is named. -/
def lowest? (sources : Sources) (line : CommandLine) : Option Layer :=
  match line.document with
  | some path => sources.documentLayer? path
  | none => some .empty

/-- The layers of a command line, of variables and of a document. -/
def Stack.of (line : CommandLine) (environment document : Layer) : Stack
  | .flags => line.settings.layer
  | .environment => environment
  | .document => document

/-- The layers of sources whose command line and document can be read. -/
def stack? (sources : Sources) : Option Stack :=
  (CommandLine.read sources.arguments).bind fun line =>
    (sources.lowest? line).map (Stack.of line (Variable.layer sources.environment))

/-- Whether there is any layer: a flag, a variable of a setting, or a document. -/
def hasLayer (sources : Sources) : Bool :=
  match CommandLine.read sources.arguments with
  | some line =>
      line.settings ≠ .empty || (Variable.layer sources.environment).isPresent ||
        line.document.isSome
  | none => false

/-- Whether there is a layer, and all layers are well formed. -/
def isWellFormed (sources : Sources) : Bool :=
  match sources.stack? with
  | some stack => (stack .environment).fits && (stack .document).fits && sources.hasLayer
  | none => false

variable {sources : Sources} {stack : Stack}

theorem fits_of_isWellFormed (hstack : sources.stack? = some stack)
    (hformed : sources.isWellFormed) : (∀ level, (stack level).fits) ∧ sources.hasLayer := by
  rw [isWellFormed, hstack] at hformed
  obtain ⟨line, -, hrest⟩ := Option.bind_eq_some_iff.mp hstack
  obtain ⟨document, -, rfl⟩ := Option.map_eq_some_iff.mp hrest
  simp only [Bool.and_eq_true] at hformed
  obtain ⟨⟨henvironment, hdocument⟩, hlayer⟩ := hformed
  refine ⟨fun level => ?_, hlayer⟩
  cases level with
  | flags => exact line.settings.fits_layer
  | environment => exact henvironment
  | document => exact hdocument

/-- What is loaded from well-formed layers. -/
theorem load_of_isWellFormed (hstack : sources.stack? = some stack)
    (hformed : sources.isWellFormed) : sources.load = .ok stack.settings := by
  obtain ⟨hfits, hlayer⟩ := fits_of_isWellFormed hstack hformed
  obtain ⟨line, hline, hrest⟩ := Option.bind_eq_some_iff.mp hstack
  obtain ⟨document, hlowest, rfl⟩ := Option.map_eq_some_iff.mp hrest
  let upper := line.settings.layer.upon (Variable.layer sources.environment)
  have hread : readLayers (upper.upon document) =
      .ok (Stack.of line (Variable.layer sources.environment) document).settings := by
    rw [readLayers, show (upper.upon document).read = _ from Stack.read_merged hfits]
  cases hpath : line.document with
  | some path =>
      simp only [lowest?, hpath] at hlowest
      simp only [load, hline, hpath, hlowest]
      exact hread
  | none =>
      simp only [lowest?, hpath, Option.some.injEq] at hlowest
      subst hlowest
      have hpresent : ¬ (line.settings = .empty ∧
          (!(Variable.layer sources.environment).isPresent) = true) := by
        simpa [hasLayer, hline, hpath, imp_iff_not_or] using hlayer
      simp only [load, hline, hpath]
      rw [if_neg hpresent, ← Layer.upon_empty (Layer.upon _ _)]
      exact hread

/-- How loaded settings come from the layers. -/
structure Combined (sources : Sources) (stack : Stack) (settings : Settings) : Prop where
  /-- A flag counts whatever the other layers say. -/
  flags : ∀ line, CommandLine.read sources.arguments = some line → ∀ key found,
    line.settings.value? key = some found → settings.value? key = some found
  /-- Without the flag, the variable does. -/
  environment : ∀ key value, stack .flags key = none →
    Variable.layer sources.environment key = some value → settings.value? key = key.read? value
  /-- Without both, the document does. -/
  document : ∀ key value, stack .flags key = none → stack .environment key = none →
    stack .document key = some value → settings.value? key = key.read? value
  /-- What no layer names is left open. -/
  unset : ∀ key, (∀ level, stack level key = none) → settings.value? key = none
  /-- What is left open has its default. -/
  port : settings.port = settings.listenPort.getD 5683
  family : settings.family = settings.addressFamily.getD .ipv6
  block : settings.block = settings.blockSize.getD 1024
  filterText : settings.filterText = settings.logFilter.getD "info"
  format : settings.format = settings.logFormat.getD .compact

/-- What a change of one setting in one layer does to the settings that are loaded. -/
structure Unaffected (stack : Stack) (level : Level) (key : SettingKey)
    (settings changed : Settings) : Prop where
  /-- The other settings stay as they are. -/
  others : ∀ other, other ≠ key → changed.value? other = settings.value? other
  /-- So does the setting itself when a layer above names it. -/
  hidden : (∃ higher ∈ level.above, (stack higher key).isSome) → changed = settings

theorem combined (hstack : sources.stack? = some stack) :
    Combined sources stack stack.settings := by
  obtain ⟨line, hline, hrest⟩ := Option.bind_eq_some_iff.mp hstack
  obtain ⟨document, -, rfl⟩ := Option.map_eq_some_iff.mp hrest
  refine ⟨?_, ?_, ?_, ?_, rfl, rfl, rfl, rfl, rfl⟩
  · intro other hother key found hfound
    obtain rfl : line = other := Option.some.inj (hline.symm.trans hother)
    rw [← Settings.bind_read?_layer, Option.bind_eq_some_iff] at hfound
    obtain ⟨value, hvalue, hread⟩ := hfound
    rw [Stack.settings, Settings.value?_ofValues, Stack.top?, Stack.of, hvalue, Option.some_or,
      Option.bind_some, hread]
  · intro key value hflags hvalue
    rw [Stack.settings, Settings.value?_ofValues, Stack.top?, hflags, Option.none_or, Stack.of,
      hvalue, Option.some_or, Option.bind_some]
  · intro key value hflags henvironment hvalue
    rw [Stack.settings, Settings.value?_ofValues, Stack.top?, hflags, henvironment, Option.none_or,
      Option.none_or, hvalue, Option.bind_some]
  · intro key hnone
    rw [Stack.settings, Settings.value?_ofValues, Stack.top?, hnone, hnone, hnone]
    rfl

/-- A change of one setting in one layer is seen at that setting at most, and only when no layer
above names it. -/
theorem Stack.unaffected (stack : Stack) (level : Level) (key : SettingKey)
    (value? : Option LayerValue) :
    Unaffected stack level key stack.settings (stack.alter level key value?).settings := by
  have hothers {other : SettingKey} (hother : other ≠ key) :
      (stack.alter level key value?).settings.value? other = stack.settings.value? other := by
    rw [settings, settings, Settings.value?_ofValues, Settings.value?_ofValues,
      top?_alter_of_ne hother]
  refine ⟨fun other hother => hothers hother, ?_⟩
  rintro ⟨higher, hhigher, hnamed⟩
  unfold settings
  congr 1
  funext other
  by_cases hother : other = key
  · subst hother
    rw [top?_alter_of_above hhigher hnamed]
  · rw [top?_alter_of_ne hother]

end Sources

/-- Each setting comes from the topmost layer that names it, and depends on nothing else. -/
theorem load_combines {sources : Sources} {stack : Sources.Stack}
    (hstack : sources.stack? = some stack) (hformed : sources.isWellFormed) :
    ∃ settings, sources.load = .ok settings ∧ Sources.Combined sources stack settings ∧
      ∀ (other : Sources) (level : Sources.Level) (key : SettingKey) (value? : Option LayerValue),
        other.stack? = some (stack.alter level key value?) → other.isWellFormed →
          ∃ changed, other.load = .ok changed ∧
            Sources.Unaffected stack level key settings changed := by
  refine ⟨stack.settings, Sources.load_of_isWellFormed hstack hformed, Sources.combined hstack, ?_⟩
  intro other level key value? hother hfine
  exact ⟨_, Sources.load_of_isWellFormed hother hfine, stack.unaffected level key value?⟩

/-- A flag, a variable and a document give a setting each, and two of them another one. -/
theorem load_combines_three :
    let sources : Sources :=
      { arguments := ["--listen-port=5690", "--config-path", "fleet.toml"]
        environment := [("FLEET_LISTEN_PORT", "5700"), ("FLEET_BLOCK_SIZE", "512")]
        document := fun _ => some "block_size = 256\nlog_filter = \"debug\"\n" }
    sources.isWellFormed ∧ ∃ stack settings, sources.stack? = some stack ∧
      sources.load = .ok settings ∧ Sources.Combined sources stack settings ∧
      settings = ⟨none, some 5690, none, some 512, some "debug", none⟩ := by
  intro sources
  have hformed : sources.isWellFormed := by decide +kernel
  have hsome : sources.stack?.isSome := by decide +kernel
  have hloaded : sources.load.toOption =
      some ⟨none, some 5690, none, some 512, some "debug", none⟩ := by
    decide +kernel
  obtain ⟨stack, hstack⟩ := Option.isSome_iff_exists.mp hsome
  obtain ⟨settings, hload, hcombined, -⟩ := load_combines hstack hformed
  rw [hload] at hloaded
  exact ⟨hformed, stack, settings, hstack, hload, hcombined, Option.some.inj hloaded⟩

end DeviceConsole
