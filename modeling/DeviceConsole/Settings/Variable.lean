import DeviceConsole.Settings.Value
import DeviceConsole.Text.Pieces

/-!
# Settings in variables

Each setting has a variable of the environment, whose name is read in any case.  Two
underscores in a name, or a point, lead into a table, so that a variable can give one entry
of it.

Main results:

- Theorem {lit}`path?_variableName`: the variable of a setting leads to the setting.
- Theorem {lit}`layer_nil`: without variables the layer is empty.
-/

namespace DeviceConsole

/-- The name of a setting's variable. -/
def SettingKey.variableName : SettingKey → String
  | listenHost => "FLEET_LISTEN_HOST"
  | listenPort => "FLEET_LISTEN_PORT"
  | addressFamily => "FLEET_ADDRESS_FAMILY"
  | blockSize => "FLEET_BLOCK_SIZE"
  | logFilter => "FLEET_LOG_FILTER"
  | logFormat => "FLEET_LOG_FORMAT"

namespace Variable

/-! ## Names -/

/-- What the names of all variables of settings begin with. -/
def herald : List Char :=
  "fleet_".toList

/-- A text with a point for every two underscores. -/
def pointed : List Char → List Char
  | '_' :: '_' :: rest => '.' :: pointed rest
  | c :: rest => c :: pointed rest
  | [] => []

/-- Where a variable leads: a key, and further keys into a table.  A name without the herald, or
with an empty key, leads nowhere. -/
def path? (name : String) : Option (List String) :=
  let text := (trim name.toList).map Char.toLower
  let keys := pieces '.' (pointed (text.drop herald.length))
  if herald.isPrefixOf text && keys.all (!·.isEmpty) then some (keys.map String.ofList) else none

/-- The variable of a setting leads to the setting. -/
@[simp]
theorem path?_variableName (key : SettingKey) : path? key.variableName = some [key.name] := by
  cases key <;> decide +kernel

/-! ## Layers -/

/-- The entry that a variable gives: a key and its value. -/
def entry? (name text : String) : Option (String × LayerValue) :=
  let value := VariableValue.interpret text
  match path? name with
  | some [key] => some (key, value)
  | some [key, inner] => some (key, .table [(inner, value.flat)])
  | some (key :: inner :: _) => some (key, .table [(inner, .other)])
  | _ => none

/-- The layer that variables give.  Of several variables for a setting the last one counts. -/
def layer (environment : List (String × String)) : Layer := fun key =>
  (environment.reverse.filterMap fun (name, text) => entry? name text).lookup key.name

/-- Without variables the layer is empty. -/
@[simp]
theorem layer_nil : layer [] = .empty :=
  rfl

end Variable

end DeviceConsole
