import DeviceConsole.Binary64

/-!
# Observation attributes

An observation is tuned by five attributes.  One update either sets both periods, or sets
the thresholds and perhaps the step, or clears all five; the three shapes never mix.

Main results:

- Theorem {lit}`mem_toSet_iff`: an attribute is being set exactly when its value is present.
- Theorem {lit}`toSet_eq_nil_or_toClear_eq_nil`: no update both sets and clears.
-/

namespace DeviceConsole

/-- The kinds of observation attribute. -/
inductive AttributeKind where
  /-- The least time between notifications, in seconds. -/
  | minPeriod
  /-- The greatest time between notifications, in seconds. -/
  | maxPeriod
  /-- Notify when the value rises above a threshold. -/
  | greaterThan
  /-- Notify when the value falls below a threshold. -/
  | lessThan
  /-- Notify when the value moves by a step. -/
  | step
deriving DecidableEq, Repr

namespace AttributeKind

/-- All kinds, in the order in which they are declared. -/
def all : List AttributeKind :=
  [minPeriod, maxPeriod, greaterThan, lessThan, step]

/-- The kind's name. -/
def name : AttributeKind → String
  | minPeriod => "MinPeriod"
  | maxPeriod => "MaxPeriod"
  | greaterThan => "GreaterThan"
  | lessThan => "LessThan"
  | step => "Step"

/-- The kind's bit in a mask. -/
def flag : AttributeKind → UInt8
  | minPeriod => 0x01
  | maxPeriod => 0x02
  | greaterThan => 0x04
  | lessThan => 0x08
  | step => 0x10

/-- The mask of several kinds. -/
def mask (kinds : List AttributeKind) : UInt8 :=
  kinds.foldl (fun mask kind => mask ||| kind.flag) 0

end AttributeKind

/-- One update of observation attributes. -/
inductive AttributeUpdate where
  /-- Set both periods. -/
  | periods (min max : UInt32)
  /-- Set the thresholds and, when it is given, the step. -/
  | thresholds (lessThan greaterThan : Binary64) (step : Option Binary64)
  /-- Clear every attribute. -/
  | clear
deriving DecidableEq, Repr

namespace AttributeUpdate

/-- The period that becomes the least one. -/
def minPeriod? : AttributeUpdate → Option UInt32
  | periods min _ => some min
  | _ => none

/-- The period that becomes the greatest one. -/
def maxPeriod? : AttributeUpdate → Option UInt32
  | periods _ max => some max
  | _ => none

/-- The lower threshold being set. -/
def lessThan? : AttributeUpdate → Option Binary64
  | thresholds lessThan _ _ => some lessThan
  | _ => none

/-- The upper threshold being set. -/
def greaterThan? : AttributeUpdate → Option Binary64
  | thresholds _ greaterThan _ => some greaterThan
  | _ => none

/-- The step being set. -/
def step? : AttributeUpdate → Option Binary64
  | thresholds _ _ step => step
  | _ => none

/-- The kinds being set, in declaration order. -/
def toSet : AttributeUpdate → List AttributeKind
  | periods _ _ => [.minPeriod, .maxPeriod]
  | thresholds _ _ none => [.greaterThan, .lessThan]
  | thresholds _ _ (some _) => [.greaterThan, .lessThan, .step]
  | clear => []

/-- The kinds being cleared, in declaration order. -/
def toClear : AttributeUpdate → List AttributeKind
  | clear => AttributeKind.all
  | _ => []

/-- Whether a kind is being set. -/
def sets (update : AttributeUpdate) (kind : AttributeKind) : Bool :=
  update.toSet.contains kind

/-- The mask of the kinds being set. -/
def setFlags (update : AttributeUpdate) : UInt8 :=
  AttributeKind.mask update.toSet

/-- The mask of the kinds being cleared. -/
def clearFlags (update : AttributeUpdate) : UInt8 :=
  AttributeKind.mask update.toClear

/-- Whether the update carries a value for a kind. -/
def hasValue (update : AttributeUpdate) : AttributeKind → Bool
  | .minPeriod => update.minPeriod?.isSome
  | .maxPeriod => update.maxPeriod?.isSome
  | .greaterThan => update.greaterThan?.isSome
  | .lessThan => update.lessThan?.isSome
  | .step => update.step?.isSome

/-- An attribute is being set exactly when its value is present. -/
theorem mem_toSet_iff (update : AttributeUpdate) (kind : AttributeKind) :
    kind ∈ update.toSet ↔ update.hasValue kind := by
  rcases update with ⟨_, _⟩ | ⟨_, _, _ | _⟩ | _ <;> cases kind <;>
    simp [toSet, hasValue, minPeriod?, maxPeriod?, lessThan?, greaterThan?, step?]

/-- No update both sets and clears. -/
theorem toSet_eq_nil_or_toClear_eq_nil (update : AttributeUpdate) :
    update.toSet = [] ∨ update.toClear = [] := by
  rcases update with ⟨_, _⟩ | ⟨_, _, _ | _⟩ | _ <;> simp [toSet, toClear]

end AttributeUpdate

end DeviceConsole
