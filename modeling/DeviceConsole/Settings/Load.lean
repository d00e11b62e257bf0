import DeviceConsole.Document.Parser
import DeviceConsole.Health
import DeviceConsole.Settings.CommandLine
import DeviceConsole.Settings.Variable

/-!
# Loading settings

Settings come from the command line, from variables and from a document that the command
line names.  These are three layers, the command line on top and the document below, and what
they come to together is read.  Without any layer nothing is loaded.

Scope: a document is one that the command line names.  The other ways in which the loader
finds a document are left out: a variable that names one, and the usual places in the home and
the working directory.  So {lit}`Sources.load` is about starts where these hold no document.  A
document that builds upon another one is refused.

Main results:

- Definition {lit}`Sources.load`: the settings that the three layers come to.
- Definition {lit}`Sources.documentLayer?`: the layer in a document.
-/

namespace DeviceConsole

/-! ## Documents as layers -/

/-- A value of a document as it stands within a table.  A number that is infinite or none is
nothing. -/
def Document.Value.plain : Document.Value → PlainValue
  | text value => .text value
  | integer value => .integer value
  | float false => .nothing
  | _ => .other

/-- A value of a document as a value of a layer.  A moment counts as a table with one entry. -/
def Document.Value.layerValue : Document.Value → LayerValue
  | closed entries => .table (entries.map fun (key, value) => (key, value.plain))
  | table _ entries => .table (entries.map fun (key, value) => (key, value.plain))
  | moment => .table [("moment", .other)]
  | value => .plain value.plain

/-- The layer of settings that the entries of a document give. -/
def Document.Entries.layer (entries : Document.Entries) : Layer := fun key =>
  (entries.get? key.name).map Document.Value.layerValue

/-- Whether a document builds upon another one, which is not offered. -/
def Document.Entries.extendsAnother (entries : Document.Entries) : Bool :=
  (entries.get? "extends").isSome

/-! ## Loading -/

/-- Where settings come from: the words of the command line, the variables of the
environment, and the texts of documents by their paths. -/
structure Sources where
  arguments : List String
  environment : List (String × String)
  document : String → Option String

namespace Sources

/-- The layer in the document at a path.  A document stands alone. -/
def documentLayer? (sources : Sources) (path : String) : Option Layer := do
  let entries ← Document.parse? (← sources.document path)
  if entries.extendsAnother then none else some entries.layer

/-- The settings of layers laid upon each other. -/
def readLayers (layer : Layer) : Except LoadFailure Settings :=
  match layer.read with
  | some settings => .ok settings
  | none => .error .layers

/-- Loads the settings. -/
def load (sources : Sources) : Except LoadFailure Settings :=
  match CommandLine.read sources.arguments with
  | none => .error .flags
  | some line =>
      let environment := Variable.layer sources.environment
      let upper := line.settings.layer.upon environment
      match line.document with
      | some path =>
          match sources.documentLayer? path with
          | some lower => readLayers (upper.upon lower)
          | none => .error .layers
      | none =>
          if line.settings = .empty ∧ !environment.isPresent then .error .missing
          else readLayers upper

end Sources

end DeviceConsole
