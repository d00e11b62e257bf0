import DeviceConsole.Registry
import Mathlib.Data.List.Induction
import Mathlib.Data.List.Sort

/-!
# The registry over a history of changes

Whatever changes a registry has seen, it holds the devices that stand registered: those that were
inserted last under their handles and not removed since, with the lifetimes that they were given
last.  Since they are in the order of their handles, the devices alone make the registry, and not
the way in which it came about.

Main results:

- Theorem {lit}`mem_after_iff`: the registry holds the devices that stand registered.
- Theorem {lit}`eq_of_mem_iff`: two registries with the same devices are one.
- Theorem {lit}`get?_after_filter`: a handle knows nothing of changes to other handles.
- Theorem {lit}`apply_of_absent`: a handle that is not registered is neither removed nor touched.
-/

namespace DeviceConsole.Registry

/-! ## Changes -/

/-- A change of the registry. -/
inductive Change where
  /-- A device is registered, in place of an earlier one of its handle. -/
  | insert (device : Device)
  /-- A handle is no longer registered. -/
  | remove (id : DeviceId)
  /-- The device of a handle gets a new lifetime. -/
  | touch (id : DeviceId) (lifetime : UInt32)
deriving DecidableEq

namespace Change

/-- The handle that a change is about. -/
def id : Change → DeviceId
  | insert device => device.id
  | remove id => id
  | touch id _ => id

/-- Whether a change puts an end to what was registered under a handle. -/
def ends (change : Change) (handle : DeviceId) : Prop :=
  match change with
  | insert device => device.id = handle
  | remove id => id = handle
  | touch _ _ => False

/-- The lifetime that a change gives a handle. -/
def lifetime? (handle : DeviceId) : Change → Option UInt32
  | touch id lifetime => if id = handle then some lifetime else none
  | _ => none

/-- A device after a change that does not put an end to it. -/
def revise : Change → Device → Device
  | touch id lifetime => withLifetime id lifetime
  | _ => fun device => device

@[simp]
theorem revise_id (change : Change) (device : Device) : (change.revise device).id = device.id := by
  cases change with
  | touch id lifetime => exact withLifetime_id id lifetime device
  | _ => rfl

/-- Only the lifetime of a device is revised. -/
theorem revise_eq (change : Change) (device : Device) : change.revise device =
    { device with lifetime := (change.lifetime? device.id).getD device.lifetime } := by
  cases change with
  | touch id lifetime =>
      by_cases hid : id = device.id
      · rw [revise, withLifetime, if_pos hid.symm, lifetime?, if_pos hid, Option.getD_some]
      · rw [revise, withLifetime, if_neg (Ne.symm hid), lifetime?, if_neg hid, Option.getD_none]
  | _ => rfl

end Change

/-- The registry after a change. -/
def apply (registry : Registry) : Change → Registry
  | .insert device => registry.insert device
  | .remove id => registry.erase id
  | .touch id lifetime => registry.setLifetime id lifetime

/-- The registry after the changes of a history. -/
def after (history : List Change) : Registry :=
  history.foldl apply empty

theorem after_concat (history : List Change) (change : Change) :
    after (history ++ [change]) = (after history).apply change := by
  rw [after, List.foldl_append]
  rfl

/-! ## The devices of a registry -/

/-- No two devices of a registry have the same handle. -/
theorem nodup_ids (registry : Registry) : (registry.devices.map (·.id)).Nodup := by
  rw [List.Nodup, List.pairwise_map]
  exact registry.ascending.imp fun hless => UInt16.ne_of_lt hless

/-- A registry holds the devices that it has under their handles. -/
theorem mem_devices_iff {registry : Registry} {device : Device} :
    device ∈ registry.devices ↔ registry.get? device.id = some device := by
  constructor
  · intro hmem
    obtain ⟨found, hfound⟩ : ∃ found, registry.get? device.id = some found := by
      rw [get?, ← Option.isSome_iff_exists, List.find?_isSome]
      exact ⟨device, hmem, beq_self_eq_true _⟩
    have hid : found.id = device.id := by simpa using List.find?_some hfound
    have hsame : found = device :=
      List.inj_on_of_nodup_map registry.nodup_ids (List.mem_of_find?_eq_some hfound) hmem hid
    rw [hfound, hsame]
  · exact List.mem_of_find?_eq_some

theorem get?_eq_some_iff {registry : Registry} {id : DeviceId} {device : Device} :
    registry.get? id = some device ↔ device ∈ registry.devices ∧ device.id = id := by
  constructor
  · intro hfound
    have hid : device.id = id := by simpa using List.find?_some hfound
    exact ⟨List.mem_of_find?_eq_some hfound, hid⟩
  · rintro ⟨hmem, rfl⟩
    exact mem_devices_iff.mp hmem

/-- Two registries with the same devices are one. -/
theorem eq_of_mem_iff {left right : Registry}
    (h : ∀ device, device ∈ left.devices ↔ device ∈ right.devices) : left = right := by
  have hnodup (registry : Registry) : registry.devices.Nodup :=
    List.Nodup.of_map _ registry.nodup_ids
  have hperm : left.devices.Perm right.devices :=
    (List.perm_ext_iff_of_nodup (hnodup left) (hnodup right)).mpr h
  have hdevices : left.devices = right.devices :=
    hperm.eq_of_pairwise (fun _ _ _ _ hless hgreater => absurd hgreater (UInt16.lt_asymm hless))
      left.ascending right.ascending
  obtain ⟨devices, _⟩ := left
  obtain ⟨_, _⟩ := right
  obtain rfl : devices = _ := hdevices
  rfl

theorem eq_of_get?_eq {left right : Registry} (h : ∀ id, left.get? id = right.get? id) :
    left = right := by
  apply eq_of_mem_iff
  intro device
  rw [mem_devices_iff, mem_devices_iff, h]

/-- The devices after a change are the one that it inserts, and those that it does not put an end
to. -/
theorem mem_apply_iff {registry : Registry} {change : Change} {device : Device} :
    device ∈ (registry.apply change).devices ↔ change = .insert device ∨
      ∃ old ∈ registry.devices, ¬ change.ends old.id ∧ device = change.revise old := by
  cases change with
  | insert inserted =>
      rw [apply, mem_devices_iff, get?_insert, Change.insert.injEq]
      by_cases hid : inserted.id = device.id
      · rw [if_pos hid, Option.some.injEq]
        constructor
        · exact Or.inl
        · rintro (hsame | ⟨old, -, hends, rfl⟩)
          · exact hsame
          · exact absurd hid hends
      · rw [if_neg hid, ← mem_devices_iff]
        constructor
        · exact fun hmem => Or.inr ⟨device, hmem, hid, rfl⟩
        · rintro (rfl | ⟨old, hmem, -, rfl⟩)
          · exact absurd rfl hid
          · exact hmem
  | remove id =>
      rw [apply, erase, List.mem_filter]
      constructor
      · rintro ⟨hmem, hkept⟩
        have hid : device.id ≠ id := by simpa using hkept
        exact Or.inr ⟨device, hmem, hid.symm, rfl⟩
      · rintro (hinsert | ⟨old, hmem, hends, rfl⟩)
        · cases hinsert
        · exact ⟨hmem, by simpa using Ne.symm hends⟩
  | touch id lifetime =>
      rw [apply, setLifetime, List.mem_map]
      constructor
      · rintro ⟨old, hmem, rfl⟩
        exact Or.inr ⟨old, hmem, not_false, rfl⟩
      · rintro (hinsert | ⟨old, hmem, -, rfl⟩)
        · cases hinsert
        · exact ⟨old, hmem, rfl⟩

/-! ## The devices after a history -/

/-- A device stands registered after a history: it is the one that was inserted last under its
handle, which nothing has removed since, with the lifetime that it was given last. -/
def Stands (history : List Change) (device : Device) : Prop :=
  ∃ front inserted back, history = front ++ .insert inserted :: back ∧
    (∀ change ∈ back, ¬ change.ends inserted.id) ∧
    device = { inserted with
      lifetime := (back.filterMap (Change.lifetime? inserted.id)).getLastD inserted.lifetime }

theorem not_stands_nil (device : Device) : ¬ Stands [] device := by
  rintro ⟨front, inserted, back, hempty, -⟩
  simp at hempty

/-- One more change leaves the device that it inserts, and those that it does not put an end to. -/
theorem stands_concat_iff {history : List Change} {change : Change} {device : Device} :
    Stands (history ++ [change]) device ↔ change = .insert device ∨
      ∃ old, Stands history old ∧ ¬ change.ends old.id ∧ device = change.revise old := by
  constructor
  · rintro ⟨front, inserted, back, hhistory, hback, rfl⟩
    rcases back.eq_nil_or_concat with rfl | ⟨earlier, last, rfl⟩
    · obtain ⟨-, hchange⟩ := List.append_inj' hhistory rfl
      exact Or.inl (List.singleton_inj.mp hchange)
    · rw [List.concat_eq_append, ← List.cons_append, ← List.append_assoc] at hhistory
      obtain ⟨hearlier, hlast⟩ := List.append_inj' hhistory rfl
      obtain rfl := List.singleton_inj.mp hlast
      refine Or.inr ⟨_, ⟨front, inserted, earlier, hearlier, ?_, rfl⟩, ?_, ?_⟩
      · exact fun other hmem => hback other (by simp [hmem])
      · exact hback change (by simp)
      · rw [Change.revise_eq, List.concat_eq_append, List.filterMap_append]
        cases hlifetime : change.lifetime? inserted.id <;> simp [hlifetime]
  · rintro (rfl | ⟨old, ⟨front, inserted, back, rfl, hback, rfl⟩, hends, rfl⟩)
    · exact ⟨history, device, [], rfl, nofun, rfl⟩
    · refine ⟨front, inserted, back ++ [change], by simp, ?_, ?_⟩
      · intro other hmem
        rcases List.mem_append.mp hmem with hmem | hmem
        · exact hback other hmem
        · obtain rfl := List.mem_singleton.mp hmem
          exact hends
      · rw [Change.revise_eq, List.filterMap_append]
        cases hlifetime : change.lifetime? inserted.id <;> simp [hlifetime]

/-- The registry holds the devices that stand registered. -/
theorem mem_after_iff {history : List Change} {device : Device} :
    device ∈ (after history).devices ↔ Stands history device := by
  induction history using List.reverseRecOn generalizing device with
  | nil =>
      constructor
      · exact fun hmem => absurd hmem List.not_mem_nil
      · exact fun hstands => absurd hstands (not_stands_nil device)
  | append_singleton history change ih =>
      rw [after_concat, mem_apply_iff, stands_concat_iff]
      simp only [ih]

/-! ## What makes no difference -/

/-- What becomes of a handle depends on what was registered under it. -/
theorem get?_apply_congr {left right : Registry} {id : DeviceId} (change : Change)
    (h : left.get? id = right.get? id) :
    (left.apply change).get? id = (right.apply change).get? id := by
  cases change with
  | insert device => rw [apply, apply, get?_insert, get?_insert, h]
  | remove removed => rw [apply, apply, get?_erase, get?_erase, h]
  | touch changed lifetime => rw [apply, apply, get?_setLifetime, get?_setLifetime, h]

/-- A change to another handle makes no difference. -/
theorem get?_apply_of_ne (registry : Registry) {change : Change} {id : DeviceId}
    (hid : change.id ≠ id) : (registry.apply change).get? id = registry.get? id := by
  cases change with
  | insert device => exact (get?_insert ..).trans (if_neg hid)
  | remove removed => exact (get?_erase ..).trans (if_neg hid)
  | touch changed lifetime =>
      rw [apply, get?_setLifetime]
      cases hfound : registry.get? id with
      | none => rfl
      | some device =>
          obtain ⟨-, rfl⟩ := get?_eq_some_iff.mp hfound
          exact congrArg some (if_neg (Ne.symm hid))

/-- A handle knows nothing of the changes to other handles. -/
theorem get?_after_filter (history : List Change) (id : DeviceId) :
    (after (history.filter (·.id = id))).get? id = (after history).get? id := by
  induction history using List.reverseRecOn with
  | nil => rfl
  | append_singleton history change ih =>
      rw [List.filter_append, after_concat]
      by_cases hid : change.id = id
      · rw [List.filter_cons_of_pos (by simpa using hid), List.filter_nil, after_concat]
        exact get?_apply_congr change ih
      · rw [List.filter_cons_of_neg (by simpa using hid), List.filter_nil, List.append_nil, ih,
          get?_apply_of_ne _ hid]

/-- A handle that is not registered is neither removed nor touched. -/
theorem apply_of_absent {registry : Registry} {change : Change}
    (habsent : registry.get? change.id = none) (hchange : ∀ device, change ≠ .insert device) :
    registry.apply change = registry := by
  apply eq_of_get?_eq
  intro id
  by_cases hid : change.id = id
  · subst hid
    cases change with
    | insert device => exact absurd rfl (hchange device)
    | remove removed => exact (get?_erase ..).trans ((if_pos rfl).trans habsent.symm)
    | touch changed lifetime => rw [apply, get?_setLifetime, habsent, Option.map_none]
  · exact get?_apply_of_ne registry hid

end DeviceConsole.Registry
