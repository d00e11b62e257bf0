import DeviceConsole.Text.Decimal

/-!
# Resource paths

A path names one to four levels of a device's data: an object, one of its instances, a
resource of that instance, and one of the resource's own instances.  A more specific
level exists only below all less specific ones, so each depth is a constructor.

Paths are ordered level by level; an absent level comes before every present one.

Main results:

- Theorem {lit}`ofLevels?_levels`: a path is determined by its list of levels.
- Theorem {lit}`text_eq`: a path is written as its levels, each behind a slash.
-/

namespace DeviceConsole

/-- The level value that is reserved for "unset"; a path that is read holds smaller values only. -/
def Path.reserved : UInt16 :=
  65535

/-- A resource path of one to four levels. -/
inductive Path where
  /-- All data of one object. -/
  | object (object : UInt16)
  /-- One instance of an object. -/
  | objectInstance (object inst : UInt16)
  /-- One resource of an object instance. -/
  | resource (object inst resource : UInt16)
  /-- One instance of a resource. -/
  | resourceInstance (object inst resource resourceInst : UInt16)
deriving DecidableEq, Repr, Inhabited

namespace Path

/-! ## Levels -/

/-- The levels that are present, the least specific first. -/
def levels : Path → List UInt16
  | object o => [o]
  | objectInstance o i => [o, i]
  | resource o i r => [o, i, r]
  | resourceInstance o i r ri => [o, i, r, ri]

/-- The path with the given levels, when there are one to four of them. -/
def ofLevels? : List UInt16 → Option Path
  | [o] => some (object o)
  | [o, i] => some (objectInstance o i)
  | [o, i, r] => some (resource o i r)
  | [o, i, r, ri] => some (resourceInstance o i r ri)
  | _ => none

/-- The object's identifier. -/
def objectId : Path → UInt16
  | object o => o
  | objectInstance o _ => o
  | resource o _ _ => o
  | resourceInstance o _ _ _ => o

/-- The object instance's identifier, when that level is present. -/
def instanceId? : Path → Option UInt16
  | object _ => none
  | objectInstance _ i => some i
  | resource _ i _ => some i
  | resourceInstance _ i _ _ => some i

/-- The resource's identifier, when that level is present. -/
def resourceId? : Path → Option UInt16
  | resource _ _ r => some r
  | resourceInstance _ _ r _ => some r
  | _ => none

/-- The resource instance's identifier, when that level is present. -/
def resourceInstanceId? : Path → Option UInt16
  | resourceInstance _ _ _ ri => some ri
  | _ => none

/-- The number of levels. -/
def depth (path : Path) : Nat :=
  path.levels.length

/-- The path of the object that contains this one. -/
def toObject (path : Path) : Path :=
  object path.objectId

/-- A path is determined by its list of levels. -/
@[simp]
theorem ofLevels?_levels (path : Path) : ofLevels? path.levels = some path := by
  cases path <;> rfl

/-- A list of levels that makes a path is the list of that path. -/
theorem levels_of_ofLevels? {list : List UInt16} {path : Path}
    (h : ofLevels? list = some path) : path.levels = list := by
  unfold ofLevels? at h
  split at h <;> simp_all only [Option.some.injEq, reduceCtorEq] <;> subst h <;> rfl

/-- A path has between one and four levels. -/
theorem depth_pos_le (path : Path) : 1 ≤ path.depth ∧ path.depth ≤ 4 := by
  cases path <;> simp [depth, levels]

/-! ## Order -/

/-- The order of a level that may be absent: absent first, then by number. -/
def compareLevel : Option UInt16 → Option UInt16 → Ordering
  | none, none => .eq
  | none, some _ => .lt
  | some _, none => .gt
  | some a, some b => compare a b

/-- The order of paths: the levels are compared from the least specific on, and the first
difference decides. -/
def order (left right : Path) : Ordering :=
  (compare left.objectId right.objectId).then <|
  (compareLevel left.instanceId? right.instanceId?).then <|
  (compareLevel left.resourceId? right.resourceId?).then <|
  compareLevel left.resourceInstanceId? right.resourceInstanceId?

/-- Whether a path does not come after another. -/
def le (left right : Path) : Bool :=
  order left right != .gt

/-- Removes each element that equals the one in front of it. -/
def dropRepeats : List Path → List Path
  | first :: second :: rest =>
      if first = second then dropRepeats (second :: rest)
      else first :: dropRepeats (second :: rest)
  | short => short

/-- The distinct paths of a list in ascending order. -/
def sortDistinct (paths : List Path) : List Path :=
  dropRepeats (paths.mergeSort le)

/-! ## Text -/

/-- The characters of a path: each level behind a slash. -/
def chars (path : Path) : List Char :=
  path.levels.flatMap fun level => '/' :: Decimal.digits level.toNat

/-- A path as it is written. -/
def text (path : Path) : String :=
  String.ofList path.chars

instance : ToString Path :=
  ⟨text⟩

/-- A path is written as its levels, each behind a slash. -/
theorem text_eq (path : Path) :
    path.text = String.ofList
      (path.levels.flatMap fun level => '/' :: Decimal.digits level.toNat) :=
  rfl

end Path

end DeviceConsole
