import DeviceConsole.Text.Decimal

/-!
# Registered devices

A device announces a name, a protocol version, the bindings by which it can be reached and
the objects that it holds.

Main results:

- Theorem {lit}`bits_ofBits_le`: a set of bindings holds known bits only.
- Theorem {lit}`declaredVersion?_eq_none_iff`: version 0.0 counts as undeclared.
-/

namespace DeviceConsole

/-- The handle of a registered device. -/
abbrev DeviceId :=
  UInt16

/-- The protocol version that a device announced. -/
inductive ProtocolVersion where
  | missing
  | unrecognized
  | v1_0
  | v1_1
deriving DecidableEq, Repr

/-- The version as it is printed. -/
def ProtocolVersion.text : ProtocolVersion → String
  | missing => "Missing"
  | unrecognized => "Unrecognized"
  | v1_0 => "1.0"
  | v1_1 => "1.1"

/-! ## Bindings -/

/-- One way in which a device can be reached, in display order. -/
inductive Binding where
  | udp
  | tcp
  | sms
  | nonIp
  | queue
deriving DecidableEq, Repr

namespace Binding

/-- All bindings, in display order. -/
def all : List Binding :=
  [udp, tcp, sms, nonIp, queue]

/-- The binding's bit in a mask. -/
def bit : Binding → UInt8
  | udp => 0x01
  | tcp => 0x02
  | sms => 0x04
  | nonIp => 0x08
  | queue => 0x10

/-- The binding's label. -/
def label : Binding → String
  | udp => "UDP"
  | tcp => "TCP"
  | sms => "SMS"
  | nonIp => "Non-IP"
  | queue => "queue mode"

end Binding

/-- A set of bindings, as a mask of their bits. -/
structure BindingSet where
  bits : UInt8
deriving DecidableEq, Repr

namespace BindingSet

/-- The set without members. -/
def empty : BindingSet :=
  ⟨0⟩

/-- The bits that name a binding. -/
def knownBits : UInt8 :=
  Binding.all.foldl (fun mask binding => mask ||| binding.bit) 0

/-- The set of the known bits of a mask. -/
def ofBits (bits : UInt8) : BindingSet :=
  ⟨bits &&& knownBits⟩

/-- The set with one more member. -/
def insert (set : BindingSet) (binding : Binding) : BindingSet :=
  ⟨set.bits ||| binding.bit⟩

/-- The set of the members of a list. -/
def ofList (bindings : List Binding) : BindingSet :=
  bindings.foldl insert empty

/-- Whether a binding is a member. -/
def contains (set : BindingSet) (binding : Binding) : Bool :=
  set.bits &&& binding.bit != 0

/-- Whether the set has no member. -/
def isEmpty (set : BindingSet) : Bool :=
  set.bits == 0

/-- The members in display order. -/
def toList (set : BindingSet) : List Binding :=
  Binding.all.filter set.contains

/-- The labels of the members, or that there are none. -/
def text (set : BindingSet) : String :=
  if set.isEmpty then "Not specified"
  else ", ".intercalate (set.toList.map Binding.label)

/-- The known bits are the five low ones. -/
theorem knownBits_eq : knownBits = 0x1F := by
  decide

/-- A set of bindings holds known bits only. -/
theorem bits_ofBits_le (bits : UInt8) : (ofBits bits).bits ≤ 0x1F := by
  rw [ofBits, knownBits_eq, UInt8.le_iff_toNat_le, UInt8.toNat_and]
  exact Nat.and_le_right

end BindingSet

/-! ## Objects and devices -/

/-- One object that a device holds, with the instances that it announced. -/
structure ObjectEntry where
  id : UInt16
  version : Option (UInt8 × UInt8)
  instances : List UInt16
deriving DecidableEq, Repr

/-- The version to display; 0.0 counts as undeclared. -/
def ObjectEntry.declaredVersion? (entry : ObjectEntry) : Option (UInt8 × UInt8) :=
  entry.version.filter (· != (0, 0))

/-- There is no version to display when none was announced or when it was 0.0. -/
theorem ObjectEntry.declaredVersion?_eq_none_iff (entry : ObjectEntry) :
    entry.declaredVersion? = none ↔ entry.version = none ∨ entry.version = some (0, 0) := by
  unfold declaredVersion?
  cases entry.version with
  | none => simp
  | some version => simp [Option.filter]

/-- The registration of one device. -/
structure Device where
  id : DeviceId
  name : String
  version : ProtocolVersion
  binding : BindingSet
  msisdn : Option String
  alternatePath : Option String
  lifetime : UInt32
  objects : List ObjectEntry
deriving DecidableEq, Repr

end DeviceConsole
