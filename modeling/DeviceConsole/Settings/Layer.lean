import DeviceConsole.Settings

/-!
# Layers of settings

Settings come in layers: a layer has values under the names of some of the settings.  Layers
are laid one upon another, value by value, and what they come to together is read at the end.
So a value that is not acceptable does no harm when a layer above it has the same setting.
A value may also be nothing at all, which leaves the setting open in spite of the layers
below.

Main results:

- Theorem {lit}`read_layer`: settings are what their own layer is read as.
- Theorem {lit}`read_eq_some_iff`: a layer is read when each of its values is acceptable.
-/

namespace DeviceConsole

/-! ## The names of the settings -/

/-- One of the six settings. -/
inductive SettingKey where
  | listenHost
  | listenPort
  | addressFamily
  | blockSize
  | logFilter
  | logFormat
deriving DecidableEq, Repr

namespace SettingKey

/-- All settings. -/
def all : List SettingKey :=
  [listenHost, listenPort, addressFamily, blockSize, logFilter, logFormat]

/-- The setting's name in documents. -/
def name : SettingKey → String
  | listenHost => "listen_host"
  | listenPort => "listen_port"
  | addressFamily => "address_family"
  | blockSize => "block_size"
  | logFilter => "log_filter"
  | logFormat => "log_format"

theorem mem_all (key : SettingKey) : key ∈ all := by
  cases key <;> decide

end SettingKey

/-! ## Values -/

/-- A value without parts: nothing, a text, an integer, or anything else. -/
inductive PlainValue where
  | nothing
  | text (value : String)
  | integer (value : Int)
  | other
deriving DecidableEq, Repr

/-- A value of a layer: a plain one, or a table of plain values. -/
inductive LayerValue where
  | plain (value : PlainValue)
  | table (entries : List (String × PlainValue))
deriving DecidableEq, Repr

namespace LayerValue

/-- The value as it stands within a table. -/
def flat : LayerValue → PlainValue
  | plain value => value
  | table _ => .other

/-- The value that two layers give together: the upper one, but tables are put together entry
by entry. -/
def upon (upper lower : LayerValue) : LayerValue :=
  match upper, lower with
  | table above, table below =>
      table (above ++ below.filter fun entry => (above.lookup entry.1).isNone)
  | upper, _ => upper

/-- Whether a value stands for itself in every layer: it is neither nothing nor a table. -/
def isDefinite : LayerValue → Bool
  | plain .nothing => false
  | plain _ => true
  | table _ => false

/-- The text, when the value is one. -/
def text? : LayerValue → Option String
  | plain (.text value) => some value
  | _ => none

/-- The number of sixteen bits, when the value is one. -/
def word? : LayerValue → Option UInt16
  | plain (.integer n) => if 0 ≤ n ∧ n < 65536 then some (UInt16.ofNat n.toNat) else none
  | _ => none

/-- The name that a value is: a text, or a table with nothing under a single key. -/
def name? : LayerValue → Option String
  | plain (.text value) => some value
  | table [(key, .nothing)] => some key
  | _ => none

/-- The address family with exactly the name that the value is. -/
def family? (value : LayerValue) : Option AddressFamily :=
  value.name?.bind AddressFamily.ofName?

/-- The log format with exactly the name that the value is. -/
def format? (value : LayerValue) : Option LogFormat :=
  value.name?.bind LogFormat.ofName?

/-- A number of sixteen bits. -/
def ofWord (word : UInt16) : LayerValue :=
  plain (.integer word.toNat)

/-- A number of sixteen bits is read as itself. -/
@[simp]
theorem word?_ofWord (word : UInt16) : (ofWord word).word? = some word := by
  have bound : word.toNat < 65536 := word.toNat_lt
  simp only [ofWord, word?]
  rw [if_pos ⟨by omega, by omega⟩]
  simp

end LayerValue

/-! ## Layers -/

/-- A layer: the value under the name of each setting, where it has one. -/
abbrev Layer :=
  SettingKey → Option LayerValue

namespace Layer

/-- The layer without values. -/
def empty : Layer := fun _ => none

/-- A layer laid upon another. -/
def upon (upper lower : Layer) : Layer := fun key =>
  match upper key, lower key with
  | some above, some below => some (above.upon below)
  | above, below => above.or below

/-- Nothing is hidden or added by an empty layer below. -/
@[simp]
theorem upon_empty (layer : Layer) : layer.upon empty = layer := by
  funext key
  unfold upon empty
  cases layer key <;> rfl

/-- Whether a layer has any value. -/
def isPresent (layer : Layer) : Bool :=
  SettingKey.all.any fun key => (layer key).isSome

/-- Whether all values of a layer stand for themselves. -/
def IsDefinite (layer : Layer) : Prop :=
  ∀ key value, layer key = some value → value.isDefinite

/-- Reads the value of one setting, if there is one that is something. -/
def field {α : Type} (read : LayerValue → Option α) : Option LayerValue → Option (Option α)
  | none => some none
  | some (.plain .nothing) => some none
  | some value => (read value).map some

/-- The settings of a layer, when each of its values is acceptable. -/
def read (layer : Layer) : Option Settings := do
  return {
    listenHost := ← field LayerValue.text? (layer .listenHost)
    listenPort := ← field LayerValue.word? (layer .listenPort)
    addressFamily := ← field LayerValue.family? (layer .addressFamily)
    blockSize := ← field LayerValue.word? (layer .blockSize)
    logFilter := ← field LayerValue.text? (layer .logFilter)
    logFormat := ← field LayerValue.format? (layer .logFormat) }

/-- A layer is read when each of its values is acceptable. -/
theorem read_eq_some_iff (layer : Layer) (settings : Settings) :
    layer.read = some settings ↔
      field LayerValue.text? (layer .listenHost) = some settings.listenHost ∧
      field LayerValue.word? (layer .listenPort) = some settings.listenPort ∧
      field LayerValue.family? (layer .addressFamily) = some settings.addressFamily ∧
      field LayerValue.word? (layer .blockSize) = some settings.blockSize ∧
      field LayerValue.text? (layer .logFilter) = some settings.logFilter ∧
      field LayerValue.format? (layer .logFormat) = some settings.logFormat := by
  cases settings
  unfold read
  simp only [bind, Option.bind_eq_some_iff, pure, Option.some.injEq, Settings.mk.injEq]
  constructor
  · rintro ⟨_, h₁, _, h₂, _, h₃, _, h₄, _, h₅, _, h₆, rfl, rfl, rfl, rfl, rfl, rfl⟩
    exact ⟨h₁, h₂, h₃, h₄, h₅, h₆⟩
  · rintro ⟨h₁, h₂, h₃, h₄, h₅, h₆⟩
    exact ⟨_, h₁, _, h₂, _, h₃, _, h₄, _, h₅, _, h₆, rfl, rfl, rfl, rfl, rfl, rfl⟩

/-- A value that stands for itself is read. -/
theorem field_of_isDefinite {α : Type} (read : LayerValue → Option α) {value : LayerValue}
    (h : value.isDefinite) : field read (some value) = (read value).map some := by
  cases value with
  | plain value => cases value <;> simp_all [LayerValue.isDefinite, field]
  | table entries => rfl

end Layer

/-! ## Settings as a layer -/

namespace Settings

/-- The layer that has the settings that are set. -/
def layer (settings : Settings) : Layer
  | .listenHost => settings.listenHost.map fun host => .plain (.text host)
  | .listenPort => settings.listenPort.map LayerValue.ofWord
  | .addressFamily => settings.addressFamily.map fun family => .plain (.text family.name)
  | .blockSize => settings.blockSize.map LayerValue.ofWord
  | .logFilter => settings.logFilter.map fun filter => .plain (.text filter)
  | .logFormat => settings.logFormat.map fun format => .plain (.text format.name)

/-- The values of settings stand for themselves. -/
theorem isDefinite_layer (settings : Settings) : settings.layer.IsDefinite := by
  intro key value h
  cases key <;>
    (simp only [layer, Option.map_eq_some_iff] at h
     obtain ⟨_, _, rfl⟩ := h
     rfl)

/-- Settings are what their own layer is read as. -/
@[simp]
theorem read_layer (settings : Settings) : settings.layer.read = some settings := by
  rw [Layer.read_eq_some_iff]
  obtain ⟨host, port, family, block, filter, format⟩ := settings
  refine ⟨?_, ?_, ?_, ?_, ?_, ?_⟩
  · cases host <;> rfl
  · cases port with
    | none => rfl
    | some word =>
        simp only [layer, Option.map_some]
        rw [Layer.field_of_isDefinite _ rfl, LayerValue.word?_ofWord, Option.map_some]
  · cases family with
    | none => rfl
    | some family => exact congrArg (Option.map some) family.ofName?_name
  · cases block with
    | none => rfl
    | some word =>
        simp only [layer, Option.map_some]
        rw [Layer.field_of_isDefinite _ rfl, LayerValue.word?_ofWord, Option.map_some]
  · cases filter <;> rfl
  · cases format with
    | none => rfl
    | some format => exact congrArg (Option.map some) format.ofName?_name

end Settings

end DeviceConsole
