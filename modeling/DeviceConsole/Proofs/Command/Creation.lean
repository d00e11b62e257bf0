import DeviceConsole.Proofs.Command.Replies
import Mathlib.Data.List.Induction

/-!
# Creations

A creation is submitted with the records that the engine makes of the typed text.  When it makes
none, the convention of the object is asked, and no other.  Whatever the records come from, the
request targets the object, and an instance that was typed moves into the payload.

Main results:

- Theorem {lit}`parse?_registered`: of the conventions of an object, the latest one counts.
- Theorem {lit}`bareInteger_eq_ok`: what the standard convention reads.
- Theorem {lit}`dispatch_creates`: what becomes of a line that asks for a creation.
-/

namespace DeviceConsole

variable {η ω : Type}

/-! ## Registered conventions -/

namespace Fallbacks

/-- The conventions that were registered one after the other. -/
def registered (registrations : List (UInt16 × PayloadConvention)) : Fallbacks :=
  registrations.foldl (fun fallbacks entry => fallbacks.insert entry.1 entry.2) empty

/-- Of the conventions that were registered for an object, the latest one counts, and those of other
objects do not. -/
theorem parse?_registered (registrations : List (UInt16 × PayloadConvention)) (object : UInt16)
    (text : String) :
    (registered registrations).parse? object text =
      (registrations.filter (·.1 = object)).getLast?.map fun entry => entry.2 text := by
  induction registrations using List.reverseRecOn with
  | nil => rfl
  | append_singleton front entry ih =>
      have hlast : registered (front ++ [entry]) = (registered front).insert entry.1 entry.2 := by
        simp [registered]
      rw [hlast, parse?_insert, ih]
      by_cases hobject : entry.1 = object
      · simp [hobject]
      · simp [hobject]

/-- The standard conventions are those of one object. -/
theorem parse?_standard (object : UInt16) (text : String) :
    standard.parse? object text =
      if object = 31024 then some (bareInteger text) else none := by
  rw [standard, parse?_insert, bareIntegerObject]
  by_cases hobject : object = 31024
  · simp [hobject]
  · rw [if_neg (Ne.symm hobject), if_neg hobject]
    rfl

end Fallbacks

/-! ## The standard convention -/

/-- A text of digits, perhaps with a sign in front, stands for an integer. -/
inductive IsSignedNumeral : List Char → Int → Prop where
  | unsigned {text : List Char} {n : Nat} (hdigits : IsNumeral text n) : IsSignedNumeral text n
  | plus {text : List Char} {n : Nat} (hdigits : IsNumeral text n) :
      IsSignedNumeral ('+' :: text) n
  | minus {text : List Char} {n : Nat} (hdigits : IsNumeral text n) :
      IsSignedNumeral ('-' :: text) (-n)

/-- The reader of integers accepts exactly the signed numerals. -/
theorem integer?_eq_some_iff {text : List Char} {n : Int} :
    Decimal.integer? text = some n ↔ IsSignedNumeral text n := by
  constructor
  · intro h
    unfold Decimal.integer? at h
    split at h
    · obtain ⟨m, hm, rfl⟩ := Option.map_eq_some_iff.mp h
      exact .plus (natural?_eq_some_iff_isNumeral.mp hm)
    · obtain ⟨m, hm, rfl⟩ := Option.map_eq_some_iff.mp h
      exact .minus (natural?_eq_some_iff_isNumeral.mp hm)
    · obtain ⟨m, hm, rfl⟩ := Option.map_eq_some_iff.mp h
      exact .unsigned (natural?_eq_some_iff_isNumeral.mp hm)
  · intro h
    cases h with
    | plus hdigits =>
        rw [Decimal.integer?, natural?_eq_some_iff_isNumeral.mpr hdigits]
        rfl
    | minus hdigits =>
        rw [Decimal.integer?, natural?_eq_some_iff_isNumeral.mpr hdigits]
        rfl
    | @unsigned text m hdigits =>
        have hnatural := natural?_eq_some_iff_isNumeral.mpr hdigits
        unfold Decimal.integer?
        split
        · exact absurd (hdigits.digits '+' (by simp)) (by decide)
        · exact absurd (hdigits.digits '-' (by simp)) (by decide)
        · rw [hnatural]
          rfl

/-- The integers of sixty-four bits are those that fit them. -/
theorem fitsSigned64_iff {n : Int} : Decimal.fitsSigned64 n ↔ ∃ m : Int64, m.toInt = n := by
  have hfits : Decimal.fitsSigned64 n ↔ -2 ^ 63 ≤ n ∧ n < 2 ^ 63 := by
    simp [Decimal.fitsSigned64]
  rw [hfits]
  constructor
  · rintro ⟨hleast, hmost⟩
    exact ⟨Int64.ofInt n, Int64.toInt_ofInt_of_le hleast hmost⟩
  · rintro ⟨m, rfl⟩
    exact ⟨m.le_toInt, m.toInt_lt⟩

/-- An integer of sixty-four bits is read from its signed numerals. -/
theorem integer64?_eq_some_iff {text : List Char} {n : Int64} :
    integer64? text = some n ↔ IsSignedNumeral text n.toInt := by
  rw [integer64?, Option.map_eq_some_iff]
  constructor
  · rintro ⟨m, hm, rfl⟩
    obtain ⟨hread, hfits⟩ := Option.filter_eq_some_iff.mp hm
    obtain ⟨k, rfl⟩ := fitsSigned64_iff.mp hfits
    rw [Int64.ofInt_toInt]
    exact integer?_eq_some_iff.mp hread
  · intro h
    have hfits : Decimal.fitsSigned64 n.toInt := fitsSigned64_iff.mpr ⟨n, rfl⟩
    refine ⟨n.toInt, ?_, Int64.ofInt_toInt n⟩
    exact Option.filter_eq_some_iff.mpr ⟨integer?_eq_some_iff.mpr h, hfits⟩

/-- The standard convention reads an integer of sixty-four bits as the value of resource 1. -/
theorem bareInteger_eq_ok {text : String} {n : Int64} (h : IsSignedNumeral text.toList n.toInt) :
    bareInteger text = .ok [.mk 1 (.integer n)] :=
  bareInteger_of_integer? (integer64?_eq_some_iff.mpr h)

/-- Every other text is no value by the standard convention. -/
theorem bareInteger_eq_error {text : String}
    (h : ∀ n : Int64, ¬ IsSignedNumeral text.toList n.toInt) :
    bareInteger text = .error .invalidValue := by
  unfold bareInteger
  cases hread : integer64? text.toList with
  | none => rfl
  | some n => exact absurd (integer64?_eq_some_iff.mp hread) (h n)

/-! ## Lines that ask for a creation -/

/-- The setting with other conventions. -/
def Setting.following (S : Setting η ω) (fallbacks : Fallbacks) : Setting η ω :=
  { S with fallbacks }

section

variable (S : Setting η ω) (fallbacks : Fallbacks)

theorem Session.heedAll_following (remarks : List Remark) :
    heedAll (S.following fallbacks) remarks = heedAll S remarks := by
  induction remarks with
  | nil => rfl
  | cons remark rest ih =>
      rw [heedAll, heedAll, ih]
      rfl

theorem Session.decode_following (path : Path) (text : String) :
    decode (S.following fallbacks) path text = decode S path text := by
  simp only [decode, heedAll_following]
  rfl

theorem Command.submitted_following (device : DeviceId) (request : Request) :
    submitted (S.following fallbacks) device request = submitted S device request := by
  simp only [submitted, Session.submit, Session.heedAll_following]
  rfl

/-- A creation asks the conventions for its records and for nothing else. -/
theorem Command.execute_create_following (session : Session η ω) (device : DeviceId) (path : Path)
    (text : String)
    (hrecords : createRecords fallbacks (S.engine.decode session.engine path text) path text =
      createRecords S.fallbacks (S.engine.decode session.engine path text) path text) :
    (create device path text).execute (S.following fallbacks) session =
      (create device path text).execute S session := by
  rw [← Session.decode_value S session path text] at hrecords
  have hfallbacks : (S.following fallbacks).fallbacks = fallbacks := rfl
  simp only [execute, Session.decode_following, Activity.bind_run, submitted_following, hfallbacks,
    hrecords]

variable {S fallbacks} {session : Session η ω} {line : List Char} {device : DeviceId} {path : Path}
  {text : String}

/-- So does a line that asks for a creation. -/
theorem dispatch_following (hline : EngineLine (Words.ofLine line) (.create device path text))
    (hrecords :
      Command.createRecords fallbacks (S.engine.decode session.engine path text) path text =
        Command.createRecords S.fallbacks (S.engine.decode session.engine path text) path text) :
    dispatch (S.following fallbacks) line session = dispatch S line session := by
  obtain ⟨⟨keyword, _⟩, htyped, rfl, -⟩ := Command.engineLine_iff.mpr hline
  have hexecuted :=
    Command.execute_create_following S fallbacks session device path text hrecords
  unfold dispatch
  rw [htyped]
  dsimp only
  rw [Activity.bind_run, Activity.bind_run, Command.attempt, Command.attempt, hexecuted]
  rfl

end

/-! ## What becomes of a creation -/

/-- What a line leaves that asks for a creation whose records are known: one request for the object,
with the records or, when an instance was typed, with that instance of them. -/
def SubmitsCreation (device : DeviceId) (path : Path) (text : String) (records : List Record)
    (ran : Ran (Session η ω) (Except IoFailure Unit)) : Prop :=
  ran.events.calls = [.decode path text, .submit device (.create (.object path.objectId)
    (path.instanceId?.elim records fun inst => [.objectInstance inst records]))]

/-- What a line leaves that asks for a creation and has no records: the failure is shown, or given
back when it is one of the console itself, and no request is submitted. -/
structure RefusesCreation (session : Session η ω) (path : Path) (text : String)
    (failure : CommandFailure) (ran : Ran (Session η ω) (Except IoFailure Unit)) : Prop where
  calls : ran.events.calls = [.decode path text]
  texts : ran.events.texts =
    if failure.isOperatorFacing then [session.console.clip (Utf8.encode failure.message)] else []
  value : ∀ cause, failure = .output cause → ran.value = .error cause

/-- What becomes of a line that asks for a creation. -/
structure Creates (S : Setting η ω) (session : Session η ω) (line : List Char) (device : DeviceId)
    (path : Path) (text : String) : Prop where
  /-- The path that was typed is one of an object, or of an instance of it. -/
  path_eq : path = .object path.objectId ∨ ∃ inst, path = .objectInstance path.objectId inst
  /-- Records of the engine's are submitted, whatever the conventions are. -/
  decoded : S.engine.decode session.engine path text ≠ [] →
    SubmitsCreation device path text (S.engine.decode session.engine path text)
        (dispatch S line session) ∧
      ∀ fallbacks, dispatch (S.following fallbacks) line session = dispatch S line session
  /-- Without them, the convention of the object decides. -/
  unknown : S.engine.decode session.engine path text = [] →
    S.fallbacks.parse? path.objectId text = none →
      RefusesCreation session path text .badSyntax (dispatch S line session)
  failed : S.engine.decode session.engine path text = [] →
    ∀ failure, S.fallbacks.parse? path.objectId text = some (.error failure) →
      RefusesCreation session path text failure (dispatch S line session)
  parsed : S.engine.decode session.engine path text = [] →
    ∀ records, S.fallbacks.parse? path.objectId text = some (.ok records) →
      SubmitsCreation device path text records (dispatch S line session)
  /-- No other convention is asked, and of the object's own the latest one. -/
  own : S.engine.decode session.engine path text = [] → ∀ fallbacks : Fallbacks,
    fallbacks.parse? path.objectId text = S.fallbacks.parse? path.objectId text →
      dispatch (S.following fallbacks) line session = dispatch S line session
  latest : ∀ registrations, S.fallbacks = .registered registrations →
    S.fallbacks.parse? path.objectId text =
      (registrations.filter (·.1 = path.objectId)).getLast?.map fun entry => entry.2 text

/-- What becomes of a text by the standard conventions, when the engine has no records for it. -/
structure CreatesByStandard (S : Setting η ω) (session : Session η ω) (line : List Char)
    (device : DeviceId) (path : Path) (text : String) : Prop where
  other : path.objectId ≠ 31024 →
    RefusesCreation session path text .badSyntax (dispatch S line session)
  integer : path.objectId = 31024 → ∀ n : Int64, IsSignedNumeral text.toList n.toInt →
    SubmitsCreation device path text [.mk 1 (.integer n)] (dispatch S line session)
  invalid : path.objectId = 31024 → (∀ n : Int64, ¬ IsSignedNumeral text.toList n.toInt) →
    RefusesCreation session path text .invalidValue (dispatch S line session)

section

variable {S : Setting η ω} {session : Session η ω} {line : List Char} {device : DeviceId}
  {path : Path} {text : String}

/-- The request of a creation targets the object. -/
theorem Command.createRequest_eq (path : Path) (records : List Record) :
    createRequest path records = .create (.object path.objectId)
      (path.instanceId?.elim records fun inst => [.objectInstance inst records]) := by
  cases path <;> rfl

/-- A creation that has records is submitted. -/
theorem submitsCreation (hline : EngineLine (Words.ofLine line) (.create device path text))
    {records : List Record}
    (hrecords : Command.createRecords S.fallbacks (S.engine.decode session.engine path text) path
      text = .ok records) :
    SubmitsCreation device path text records (dispatch S line session) := by
  unfold SubmitsCreation
  rw [dispatch_calls_of_engineLine S session hline, Command.engineCalls, hrecords,
    Command.requestCalls, Command.createRequest_eq]

/-- A creation that has none is not. -/
theorem refusesCreation (hline : EngineLine (Words.ofLine line) (.create device path text))
    {failure : CommandFailure}
    (hrecords : Command.createRecords S.fallbacks (S.engine.decode session.engine path text) path
      text = .error failure) :
    RefusesCreation session path text failure (dispatch S line session) := by
  have hhandled := dispatch_handled S session line
  rw [handlingOf_of_engineLine S session.engine hline, Command.handling, hrecords] at hhandled
  constructor
  · rw [dispatch_calls_of_engineLine S session hline, Command.engineCalls, hrecords]
    rfl
  · rw [hhandled.texts]
    cases failure <;> rfl
  · rintro cause rfl
    exact hhandled.value

/-- The engine's records count when there are any. -/
theorem Command.createRecords_of_ne {fallbacks : Fallbacks} {records : List Record}
    (hne : records ≠ []) (path : Path) (text : String) :
    createRecords fallbacks records path text = .ok records := by
  unfold createRecords
  rw [if_pos (by simpa using hne)]

theorem Command.createRecords_nil (fallbacks : Fallbacks) (path : Path) (text : String) :
    createRecords fallbacks [] path text =
      (fallbacks.parse? path.objectId text).getD (.error .badSyntax) :=
  rfl

/-- A creation is typed for an object or an instance. -/
theorem path_of_engineLine (hline : EngineLine (Words.ofLine line) (.create device path text)) :
    path = .object path.objectId ∨ ∃ inst, path = .objectInstance path.objectId inst := by
  generalize Words.ofLine line = words at hline
  cases hline with
  | create hdevice hpath =>
      have hdepth := (Operation.accepts_create_iff path).mp hpath.accepts
      cases path with
      | object object => exact Or.inl rfl
      | objectInstance object inst => exact Or.inr ⟨inst, rfl⟩
      | resource object inst resource => simp [Path.depth, Path.levels] at hdepth
      | resourceInstance object inst resource resourceInst =>
          simp [Path.depth, Path.levels] at hdepth

theorem creates (hline : EngineLine (Words.ofLine line) (.create device path text)) :
    Creates S session line device path text where
  path_eq := path_of_engineLine hline
  decoded hne := by
    refine ⟨submitsCreation hline (Command.createRecords_of_ne hne path text), fun fallbacks => ?_⟩
    refine dispatch_following hline ?_
    rw [Command.createRecords_of_ne hne, Command.createRecords_of_ne hne]
  unknown hnil hparse := by
    refine refusesCreation hline ?_
    rw [hnil, Command.createRecords_nil, hparse, Option.getD_none]
  failed hnil failure hparse := by
    refine refusesCreation hline ?_
    rw [hnil, Command.createRecords_nil, hparse, Option.getD_some]
  parsed hnil records hparse := by
    refine submitsCreation hline ?_
    rw [hnil, Command.createRecords_nil, hparse, Option.getD_some]
  own hnil fallbacks hparse := by
    refine dispatch_following hline ?_
    rw [hnil, Command.createRecords_nil, Command.createRecords_nil, hparse]
  latest registrations heq := by
    rw [heq, Fallbacks.parse?_registered]

end

/-- What becomes of a line that asks for a creation, by any conventions and by the standard ones. -/
theorem dispatch_creates (S : Setting η ω) (session : Session η ω) {line : List Char}
    {device : DeviceId} {path : Path} {text : String}
    (hline : EngineLine (Words.ofLine line) (.create device path text)) :
    Creates S session line device path text ∧
      (S.fallbacks = .standard → S.engine.decode session.engine path text = [] →
        CreatesByStandard S session line device path text) := by
  have hcreates : Creates S session line device path text := creates hline
  refine ⟨hcreates, fun hstandard hnil => ?_⟩
  have hparse := Fallbacks.parse?_standard path.objectId text
  rw [← hstandard] at hparse
  constructor
  · intro hother
    rw [if_neg hother] at hparse
    exact hcreates.unknown hnil hparse
  · intro hobject n hnumeral
    rw [if_pos hobject, bareInteger_eq_ok hnumeral] at hparse
    exact hcreates.parsed hnil _ hparse
  · intro hobject hnone
    rw [if_pos hobject, bareInteger_eq_error hnone] at hparse
    exact hcreates.failed hnil _ hparse

/-- The least integer of sixty-four bits, for an instance that was typed. -/
theorem dispatch_creates_shipped :
    let line := "create 7 /31024/2 -9223372036854775808".toList
    let path := Path.objectInstance 31024 2
    let session : Session OfflineEngine ScriptedHost := .start ⟨512⟩ .idle .working
    EngineLine (Words.ofLine line) (.create 7 path "-9223372036854775808") ∧
      SubmitsCreation 7 path "-9223372036854775808" [.mk 1 (.integer (-9223372036854775808))]
        (dispatch .shipped line session) := by
  have hwords : Words.ofLine "create 7 /31024/2 -9223372036854775808".toList =
      ["create".toList, ['7'], "/31024/2".toList, "-9223372036854775808".toList] := by
    decide +kernel
  have hline : EngineLine (Words.ofLine "create 7 /31024/2 -9223372036854775808".toList)
      (.create 7 (.objectInstance 31024 2) "-9223372036854775808") := by
    rw [hwords]
    have hdevice : IsNumeral ['7'] (7 : DeviceId).toNat :=
      ⟨by decide, List.all_eq_true.mp (by decide), by decide⟩
    have hpath : IsTarget .create "/31024/2".toList (.objectInstance 31024 2) :=
      ⟨by decide +kernel, by decide⟩
    exact .create hdevice hpath "-9223372036854775808".toList
  have hnumeral : IsSignedNumeral "-9223372036854775808".toList
      (-9223372036854775808 : Int64).toInt := by
    exact .minus (n := 9223372036854775808)
      ⟨by decide, List.all_eq_true.mp (by decide), by decide⟩
  exact ⟨hline, ((dispatch_creates .shipped _ hline).2 rfl rfl).integer rfl _ hnumeral⟩

end DeviceConsole
