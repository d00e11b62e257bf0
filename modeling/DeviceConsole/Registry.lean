import DeviceConsole.Device

/-!
# The device registry

The registered devices, at most one for each handle, kept in ascending order of the
handles.  The order is part of the type, so listing the registry needs no sorting.

Main results:

- Theorem {lit}`get?_insert`: insertion changes the entry of its own handle only.
- Theorem {lit}`get?_erase`: so does removal.
- Theorem {lit}`get?_setLifetime`: a new lifetime changes one field of one entry.
-/

namespace DeviceConsole

/-- Devices in strictly ascending order of their handles. -/
structure Registry where
  devices : List Device
  ascending : devices.Pairwise (·.id < ·.id)

namespace Registry

/-! ## Operations on the ordered list -/

/-- Puts a device at its place, in front of the first greater handle. -/
def insertInto (device : Device) : List Device → List Device
  | [] => [device]
  | first :: rest =>
      if device.id < first.id then device :: first :: rest
      else if device.id = first.id then device :: rest
      else first :: insertInto device rest

/-- The devices of an insertion are the inserted one and old ones. -/
theorem mem_insertInto {device other : Device} {devices : List Device}
    (h : other ∈ insertInto device devices) : other = device ∨ other ∈ devices := by
  induction devices with
  | nil => simpa [insertInto] using h
  | cons first rest ih =>
      simp only [insertInto] at h
      split at h
      · simpa using h
      · split at h
        · rcases List.mem_cons.mp h with rfl | h
          · exact Or.inl rfl
          · exact Or.inr (List.mem_cons_of_mem _ h)
        · rcases List.mem_cons.mp h with rfl | h
          · exact Or.inr List.mem_cons_self
          · exact (ih h).imp id (List.mem_cons_of_mem _)

/-- Insertion keeps the order. -/
theorem pairwise_insertInto {device : Device} {devices : List Device}
    (h : devices.Pairwise (·.id < ·.id)) :
    (insertInto device devices).Pairwise (·.id < ·.id) := by
  induction devices with
  | nil => simp [insertInto]
  | cons first rest ih =>
      obtain ⟨before, tail⟩ := List.pairwise_cons.mp h
      simp only [insertInto]
      split
      · rename_i less
        refine List.pairwise_cons.mpr ⟨fun other mem => ?_, h⟩
        rcases List.mem_cons.mp mem with rfl | mem
        · exact less
        · exact UInt16.lt_trans less (before other mem)
      · split
        · rename_i same
          refine List.pairwise_cons.mpr ⟨fun other mem => ?_, tail⟩
          exact same ▸ before other mem
        · rename_i notLess notSame
          refine List.pairwise_cons.mpr ⟨fun other mem => ?_, ih tail⟩
          rcases mem_insertInto mem with rfl | mem
          · exact UInt16.lt_of_le_of_ne (UInt16.not_lt.mp notLess) (Ne.symm notSame)
          · exact before other mem

/-- A change that keeps every handle keeps the order. -/
theorem pairwise_map {change : Device → Device} (keeps : ∀ device, (change device).id = device.id)
    {devices : List Device} (h : devices.Pairwise (·.id < ·.id)) :
    (devices.map change).Pairwise (·.id < ·.id) := by
  rw [List.pairwise_map]
  simpa [keeps] using h

/-! ## The registry -/

/-- The registry without devices. -/
def empty : Registry :=
  ⟨[], List.Pairwise.nil⟩

instance : Inhabited Registry :=
  ⟨empty⟩

/-- The entry of a handle. -/
def get? (registry : Registry) (id : DeviceId) : Option Device :=
  registry.devices.find? (·.id == id)

/-- Whether a handle is registered. -/
def contains (registry : Registry) (id : DeviceId) : Bool :=
  (registry.get? id).isSome

/-- The number of registered devices. -/
def size (registry : Registry) : Nat :=
  registry.devices.length

/-- Whether no device is registered. -/
def isEmpty (registry : Registry) : Bool :=
  registry.devices.isEmpty

/-- Registers a device in place of an earlier entry of its handle. -/
def insert (registry : Registry) (device : Device) : Registry :=
  ⟨insertInto device registry.devices, pairwise_insertInto registry.ascending⟩

/-- Removes the entry of a handle. -/
def erase (registry : Registry) (id : DeviceId) : Registry :=
  ⟨registry.devices.filter (·.id != id), registry.ascending.filter _⟩

/-- The device with a new lifetime when it has the given handle. -/
def withLifetime (id : DeviceId) (lifetime : UInt32) (device : Device) : Device :=
  if device.id = id then { device with lifetime } else device

@[simp]
theorem withLifetime_id (id : DeviceId) (lifetime : UInt32) (device : Device) :
    (withLifetime id lifetime device).id = device.id := by
  unfold withLifetime
  split <;> rfl

/-- Gives the entry of a handle a new lifetime. -/
def setLifetime (registry : Registry) (id : DeviceId) (lifetime : UInt32) : Registry :=
  ⟨registry.devices.map (withLifetime id lifetime),
    pairwise_map (withLifetime_id id lifetime) registry.ascending⟩

/-- The registry of the devices of a list, later ones replacing earlier ones. -/
def ofList (devices : List Device) : Registry :=
  devices.foldl insert empty

/-! ## Look-up after each operation -/

@[simp]
theorem get?_empty (id : DeviceId) : empty.get? id = none :=
  rfl

/-- Insertion changes the entry of its own handle only. -/
theorem get?_insert (registry : Registry) (device : Device) (id : DeviceId) :
    (registry.insert device).get? id =
      if device.id = id then some device else registry.get? id := by
  obtain ⟨devices, ascending⟩ := registry
  simp only [get?, insert]
  induction devices with
  | nil =>
      simp only [insertInto, List.find?_cons, List.find?_nil]
      split <;> simp_all
  | cons first rest ih =>
      have tail := ih (List.pairwise_cons.mp ascending).2
      simp only [insertInto]
      split
      · rw [List.find?_cons]
        split <;> simp_all
      · split
        · rename_i same
          simp only [List.find?_cons, ← same]
          split <;> simp_all
        · rename_i notSame
          simp only [List.find?_cons]
          split
          · rename_i isFirst
            have : device.id ≠ id := by
              simp only [beq_iff_eq] at isFirst
              exact isFirst ▸ notSame
            simp [this]
          · exact tail

/-- Removal forgets the entry of its own handle only. -/
theorem get?_erase (registry : Registry) (removed id : DeviceId) :
    (registry.erase removed).get? id = if removed = id then none else registry.get? id := by
  simp only [get?, erase, List.find?_filter]
  split
  · subst removed
    rw [List.find?_eq_none]
    intro device _
    simp
  · rename_i different
    congr 1
    funext device
    by_cases h : device.id = id
    · subst h
      simp [Ne.symm different]
    · simp [h]

/-- A new lifetime changes one field of one entry. -/
theorem get?_setLifetime (registry : Registry) (changed : DeviceId) (lifetime : UInt32)
    (id : DeviceId) :
    (registry.setLifetime changed lifetime).get? id =
      (registry.get? id).map (withLifetime changed lifetime) := by
  simp only [get?, setLifetime, List.find?_map]
  congr 1
  congr 1
  funext device
  simp

end Registry

end DeviceConsole
