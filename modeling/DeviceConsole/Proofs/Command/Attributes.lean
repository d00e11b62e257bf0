import DeviceConsole.Proofs.Command.Replies
import DeviceConsole.Proofs.Reactor.Requests
import DeviceConsole.Proofs.Text.Binary64

/-!
# Observation attributes

An update of attributes sets both periods, or the thresholds and perhaps the step, or clears
everything.  Which it is, and with which values, is what was typed; its views agree with each
other; and no threshold is an infinity or no number, since a line with such a word is refused.

Main results:

- Theorem {lit}`AttributeKind.testBit_mask`: the bits of a mask are those of its kinds.
- Theorem {lit}`AttributeUpdate.isConsistent`: the views of an update agree.
- Theorem {lit}`TypedUpdate.of_engineCalls`: every update that is submitted was typed so.
- Theorem {lit}`dispatch_writesAttributes`: what becomes of a line that writes attributes.
-/

namespace DeviceConsole

variable {η ω : Type}

/-! ## Masks -/

/-- The bits of a mask are those of its kinds. -/
theorem AttributeKind.testBit_mask (kinds : List AttributeKind) (bit : Nat) :
    (mask kinds).toNat.testBit bit ↔ ∃ kind ∈ kinds, kind.flag.toNat.testBit bit := by
  -- The fold starts at any mask, whose bits stay.
  have hfold : ∀ start : UInt8,
      (kinds.foldl (fun mask kind => mask ||| kind.flag) start).toNat.testBit bit ↔
        start.toNat.testBit bit ∨ ∃ kind ∈ kinds, kind.flag.toNat.testBit bit := by
    induction kinds with
    | nil => simp
    | cons kind rest ih =>
        intro start
        rw [List.foldl_cons, ih, UInt8.toNat_or, Nat.testBit_or, Bool.or_eq_true, or_assoc]
        simp
  rw [mask, hfold]
  simp

/-! ## Updates -/

namespace AttributeUpdate

/-- An update that sets the two periods and nothing else. -/
structure SetsPeriods (update : AttributeUpdate) (min max : UInt32) : Prop where
  sets_iff : ∀ kind, update.sets kind ↔ kind = .minPeriod ∨ kind = .maxPeriod
  minPeriod : update.minPeriod? = some min
  maxPeriod : update.maxPeriod? = some max
  toClear : update.toClear = []

/-- An update that sets the two thresholds, the step when there is one, and nothing else. -/
structure SetsThresholds (update : AttributeUpdate) (lessThan greaterThan : Binary64)
    (step : Option Binary64) : Prop where
  sets_iff : ∀ kind, update.sets kind ↔
    kind = .lessThan ∨ kind = .greaterThan ∨ kind = .step ∧ step.isSome
  lessThan : update.lessThan? = some lessThan
  greaterThan : update.greaterThan? = some greaterThan
  step : update.step? = step
  toClear : update.toClear = []

/-- An update that sets nothing and clears every kind. -/
structure ClearsAll (update : AttributeUpdate) : Prop where
  toSet : update.toSet = []
  mem_toClear : ∀ kind, kind ∈ update.toClear

/-- The views of an update agree with each other. -/
structure IsConsistent (update : AttributeUpdate) : Prop where
  sets_iff : ∀ kind, update.sets kind ↔ update.hasValue kind
  apart : update.toSet = [] ∨ update.toClear = []
  setFlags : ∀ bit, update.setFlags.toNat.testBit bit ↔
    ∃ kind ∈ update.toSet, kind.flag.toNat.testBit bit
  clearFlags : ∀ bit, update.clearFlags.toNat.testBit bit ↔
    ∃ kind ∈ update.toClear, kind.flag.toNat.testBit bit

/-- The numbers that an update carries for thresholds and the step. -/
def numbers (update : AttributeUpdate) : List Binary64 :=
  update.lessThan?.toList ++ update.greaterThan?.toList ++ update.step?.toList

theorem sets_iff_mem (update : AttributeUpdate) (kind : AttributeKind) :
    update.sets kind ↔ kind ∈ update.toSet := by
  simp [sets]

theorem isConsistent (update : AttributeUpdate) : update.IsConsistent where
  sets_iff kind := (update.sets_iff_mem kind).trans (update.mem_toSet_iff kind)
  apart := update.toSet_eq_nil_or_toClear_eq_nil
  setFlags := AttributeKind.testBit_mask update.toSet
  clearFlags := AttributeKind.testBit_mask update.toClear

section

variable {update : AttributeUpdate}

theorem SetsPeriods.numbers_eq {min max : UInt32} (h : update.SetsPeriods min max) :
    update.numbers = [] := by
  cases update with
  | periods => rfl
  | _ => exact nomatch h.minPeriod

theorem SetsThresholds.numbers_eq {lessThan greaterThan : Binary64} {step : Option Binary64}
    (h : update.SetsThresholds lessThan greaterThan step) :
    update.numbers = lessThan :: greaterThan :: step.toList := by
  rw [numbers, h.lessThan, h.greaterThan, h.step]
  rfl

theorem ClearsAll.numbers_eq (h : update.ClearsAll) : update.numbers = [] := by
  cases update with
  | clear => rfl
  | periods min max => exact nomatch h.toSet
  | thresholds lessThan greaterThan step =>
      have hnone := h.toSet
      cases step <;> exact nomatch hnone

end

theorem setsPeriods (min max : UInt32) : (periods min max).SetsPeriods min max where
  sets_iff kind := by simp [sets_iff_mem, toSet]
  minPeriod := rfl
  maxPeriod := rfl
  toClear := rfl

theorem setsThresholds (lessThan greaterThan : Binary64) (step : Option Binary64) :
    (thresholds lessThan greaterThan step).SetsThresholds lessThan greaterThan step where
  sets_iff kind := by
    rw [sets_iff_mem]
    cases step with
    | none => simp [toSet, or_comm]
    | some number => simp [toSet, or_left_comm]
  lessThan := rfl
  greaterThan := rfl
  step := rfl
  toClear := rfl

theorem clearsAll : clear.ClearsAll where
  toSet := rfl
  mem_toClear kind := by cases kind <;> decide

end AttributeUpdate

/-! ## What was typed -/

/-- A word that stands for a finite number among all words of the format. -/
def IsFiniteNumber (word : List Char) (number : Binary64) : Prop :=
  Binary64.ofText? word = some number ∧ number.isFinite

theorem isThreshold_iff {word : List Char} {number : Binary64} :
    IsThreshold word number ↔ IsFiniteNumber word number := by
  rw [← finite?_eq_some_iff, Binary64.finite?_eq_some_iff_ofText?]
  rfl

/-- The words of a line, and the update of attributes that they stand for. -/
inductive TypedUpdate : List (List Char) → DeviceId → Path → AttributeUpdate → Prop where
  | time {first second least most : List Char} {device : DeviceId} {path : Path}
      {min max : UInt32} {update : AttributeUpdate} (hdevice : IsNumeral first device.toNat)
      (hpath : IsTarget .writeAttributes second path) (hmin : IsNumeral least min.toNat)
      (hmax : IsNumeral most max.toNat) (hsets : update.SetsPeriods min max) :
      TypedUpdate ["time".toList, first, second, least, most] device path update
  | attr {first second less greater : List Char} {last : Option (List Char)}
      {device : DeviceId} {path : Path} {lessThan greaterThan : Binary64}
      {step : Option Binary64} {update : AttributeUpdate}
      (hdevice : IsNumeral first device.toNat) (hpath : IsTarget .writeAttributes second path)
      (hless : IsFiniteNumber less lessThan) (hgreater : IsFiniteNumber greater greaterThan)
      (hstep : Option.Rel IsFiniteNumber last step)
      (hsets : update.SetsThresholds lessThan greaterThan step) :
      TypedUpdate ("attr".toList :: first :: second :: less :: greater :: last.toList) device path
        update
  | clear {first second : List Char} {device : DeviceId} {path : Path}
      {update : AttributeUpdate} (hdevice : IsNumeral first device.toNat)
      (hpath : IsTarget .writeAttributes second path) (hclears : update.ClearsAll) :
      TypedUpdate ["clear".toList, first, second] device path update

namespace TypedUpdate

variable {words : List (List Char)} {device : DeviceId} {path : Path} {update : AttributeUpdate}

/-- Every update that is submitted was typed so. -/
theorem of_engineCalls {S : Setting η ω} {engine : η} {command : Command}
    (hline : EngineLine words command)
    (hcall : .submit device (.writeAttributes path update) ∈ command.engineCalls S engine) :
    TypedUpdate words device path update := by
  cases Command.submits_of_mem S hcall with
  | typed =>
      cases hline with
      | time hdevice hpath hmin hmax =>
          exact .time hdevice hpath hmin hmax (AttributeUpdate.setsPeriods _ _)
      | attr hdevice hpath hless hgreater hstep =>
          refine .attr hdevice hpath (isThreshold_iff.mp hless) (isThreshold_iff.mp hgreater) ?_
            (AttributeUpdate.setsThresholds _ _ _)
          cases hstep with
          | none => exact .none
          | some hnumber => exact .some (isThreshold_iff.mp hnumber)
      | clear hdevice hpath => exact .clear hdevice hpath AttributeUpdate.clearsAll

/-- No number that was typed is an infinity, or none at all. -/
theorem isFinite (h : TypedUpdate words device path update) :
    ∀ number ∈ update.numbers, number.isFinite := by
  cases h with
  | time _ _ _ _ hsets => simp [hsets.numbers_eq]
  | attr _ _ hless hgreater hstep hsets =>
      rw [hsets.numbers_eq, List.forall_mem_cons, List.forall_mem_cons]
      refine ⟨hless.2, hgreater.2, ?_⟩
      cases hstep with
      | none => simp
      | some hnumber => simpa using hnumber.2
  | clear _ _ hclears => simp [hclears.numbers_eq]

end TypedUpdate

/-! ## Lines that write attributes -/

/-- The keywords of the lines that write attributes. -/
def attributeKeywords : List String :=
  ["time", "attr", "clear"]

/-- Whatever a line with one of these keywords submits, it writes attributes. -/
theorem writesAttributes_of_keyword {S : Setting η ω} {engine : η} {words : List (List Char)}
    {command : Command} {keyword : String} {device : DeviceId} {request : Request}
    (hkeyword : keyword ∈ attributeKeywords) (hwords : words.head? = some keyword.toList)
    (hline : EngineLine words command)
    (hcall : .submit device request ∈ command.engineCalls S engine) :
    ∃ path update, request = .writeAttributes path update := by
  have hothers : ∀ keyword ∈ attributeKeywords,
      ∀ other ∈ pathKeywords.map (·.1) ++ writeKeywords.map (·.1) ++ ["exec", "create"],
        other.toList ≠ keyword.toList := by
    decide
  have hother := hothers keyword hkeyword
  have hasked := Command.submits_of_mem S hcall
  cases hline with
  | time => cases hasked with | typed => exact ⟨_, _, rfl⟩
  | attr => cases hasked with | typed => exact ⟨_, _, rfl⟩
  | clear => cases hasked with | typed => exact ⟨_, _, rfl⟩
  | @onPath other kind _ _ _ _ hpath =>
      have hmem := List.mem_map_of_mem (f := (·.1)) hpath
      exact absurd (Option.some.inj hwords) (hother other (by simp [hmem]))
  | @write other isPartial _ _ _ _ hwrite =>
      have hmem := List.mem_map_of_mem (f := (·.1)) hwrite
      exact absurd (Option.some.inj hwords) (hother other (by simp [hmem]))
  | exec => exact absurd (Option.some.inj hwords) (hother "exec" (by simp))
  | create => exact absurd (Option.some.inj hwords) (hother "create" (by simp))

/-- An update as it was typed, whose views agree and whose numbers are finite. -/
structure IsProper (words : List (List Char)) (device : DeviceId) (path : Path)
    (update : AttributeUpdate) : Prop where
  typed : TypedUpdate words device path update
  consistent : update.IsConsistent
  finite : ∀ number ∈ update.numbers, number.isFinite

theorem isProper_of_engineCalls {S : Setting η ω} {engine : η} {words : List (List Char)}
    {command : Command} {device : DeviceId} {path : Path} {update : AttributeUpdate}
    (hline : EngineLine words command)
    (hcall : .submit device (.writeAttributes path update) ∈ command.engineCalls S engine) :
    IsProper words device path update := by
  have htyped := TypedUpdate.of_engineCalls hline hcall
  exact ⟨htyped, update.isConsistent, htyped.isFinite⟩

section

variable (S : Setting η ω) (session : Session η ω)

/-- What becomes of a line that writes attributes. -/
structure WritesAttributes (line : List Char) : Prop where
  /-- What it submits, if anything, is one update as it was typed. -/
  submitted : ∀ keyword ∈ attributeKeywords, (Words.ofLine line).head? = some keyword.toList →
    ∀ device request, .submit device request ∈ (dispatch S line session).events.calls →
      (dispatch S line session).events.calls = [.submit device request] ∧
        ∃ path update, request = .writeAttributes path update ∧
          IsProper (Words.ofLine line) device path update
  /-- A word behind the path that stands for no finite number is refused. -/
  refused : ∀ first second rest word,
    Words.ofLine line = "attr".toList :: first :: second :: rest → word ∈ rest →
      (∀ number, Binary64.ofText? word = some number → number.isFinite = false) →
        (dispatch S line session).events.calls = [] ∧
          (dispatch S line session).events.texts =
            [session.console.clip (Utf8.encode "Syntax error !")]

/-- The words behind the path that are read as thresholds all stand for numbers. -/
theorem exists_isThreshold_of_read {text first second : List Char} {rest : List (List Char)}
    {command : Command} (hread : Command.readThresholds.read text = .ok command)
    (hwords : Words.ofLine text = first :: second :: rest) :
    ∀ word ∈ rest, ∃ number, IsThreshold word number := by
  obtain ⟨-, _, _, _, device, path, hread, -, -, less, greater, last, lessThan, greaterThan, step,
    rfl, hless, hgreater, hstep, -, -⟩ :=
    (Takes.onTarget fun device path => Takes.thresholds fun lessThan greaterThan step =>
      Command.submit device
        (.writeAttributes path (.thresholds lessThan greaterThan step))).read_iff.mp hread
  rw [hwords] at hread
  obtain ⟨-, htail⟩ := List.cons.inj hread
  obtain ⟨-, rfl⟩ := List.cons.inj htail
  rw [List.forall_mem_cons, List.forall_mem_cons]
  refine ⟨⟨lessThan, hless⟩, ⟨greaterThan, hgreater⟩, ?_⟩
  cases hstep with
  | none => simp
  | some hnumber => simpa using ⟨_, hnumber⟩

/-- A line for thresholds with a word that stands for no finite number is refused. -/
theorem dispatch_refusesThreshold {line first second word : List Char} {rest : List (List Char)}
    (hwords : Words.ofLine line = "attr".toList :: first :: second :: rest) (hword : word ∈ rest)
    (hnumber : ∀ number, ¬ IsFiniteNumber word number) :
    (dispatch S line session).events.calls = [] ∧
      (dispatch S line session).events.texts =
        [session.console.clip (Utf8.encode "Syntax error !")] := by
  obtain ⟨entry, hentry, hkeyword, hform⟩ : ∃ entry ∈ CommandEntry.all,
      entry.keyword = "attr" ∧ entry.form = .thresholds := by
    simp [CommandEntry.all]
  rw [← hkeyword] at hwords
  refine dispatch_of_unread S session hentry hwords fun text command htext hread => ?_
  rw [hform] at hread
  obtain ⟨number, hthreshold⟩ := exists_isThreshold_of_read hread htext word hword
  exact hnumber number (isThreshold_iff.mp hthreshold)

/-- An update of attributes is what was typed, and nothing else: its shape is that of the keyword,
its views agree, and its numbers are finite, since a line with any other word is refused. -/
theorem dispatch_writesAttributes (line : List Char) :
    WritesAttributes S session line ∧
      ∀ rounds start device path update,
        .submit device (.writeAttributes path update) ∈
            (Reactor.run S rounds start).events.calls →
          ∃ typed, IsProper (Words.ofLine typed) device path update := by
  refine ⟨⟨?_, ?_⟩, ?_⟩
  · intro keyword hkeyword hwords device request hcall
    obtain ⟨command, hline, hasked⟩ := exists_engineLine_of_mem_calls S session hcall
    obtain ⟨path, update, rfl⟩ := writesAttributes_of_keyword hkeyword hwords hline hasked
    refine ⟨?_, path, update, rfl, isProper_of_engineCalls hline hasked⟩
    rw [dispatch_calls_of_engineLine S session hline]
    cases Command.submits_of_mem S hasked with
    | typed => rfl
  · intro first second rest word hwords hword hnumber
    refine dispatch_refusesThreshold S session hwords hword ?_
    rintro number ⟨hread, hfinite⟩
    rw [hnumber number hread] at hfinite
    exact nomatch hfinite
  · intro rounds start device path update hcall
    obtain ⟨typed, command, engine, hline, hasked⟩ := Reactor.exists_engineLine_of_run S hcall
    exact ⟨typed, isProper_of_engineCalls hline hasked⟩

end

/-- Two thresholds and a step, and a threshold that is an infinity. -/
theorem dispatch_writesAttributes_shipped :
    let session : Session OfflineEngine ScriptedHost := .start ⟨512⟩ .idle .working
    let line := "attr 1 /3/0/13 1.5 9 0.5".toList
    let update := AttributeUpdate.thresholds ⟨0x3FF8000000000000⟩ ⟨0x4022000000000000⟩
      (some ⟨0x3FE0000000000000⟩)
    (dispatch .shipped line session).events.calls =
        [.submit 1 (.writeAttributes (.resource 3 0 13) update)] ∧
      IsProper (Words.ofLine line) 1 (.resource 3 0 13) update ∧ update.setFlags = 0x1C ∧
      (dispatch .shipped "attr 1 /3/0/13 1.5 inf".toList session).events.texts =
        [Utf8.encode "Syntax error !"] := by
  intro session line update
  have hwords : Words.ofLine line = ["attr".toList, ['1'], "/3/0/13".toList, "1.5".toList, ['9'],
      "0.5".toList] := by
    decide +kernel
  have hline : EngineLine (Words.ofLine line)
      (.submit 1 (.writeAttributes (.resource 3 0 13) update)) := by
    rw [hwords]
    have hdevice : IsNumeral ['1'] (1 : DeviceId).toNat :=
      ⟨by decide, List.all_eq_true.mp (by decide), by decide⟩
    have hpath : IsTarget .writeAttributes "/3/0/13".toList (.resource 3 0 13) :=
      ⟨by decide +kernel, by decide⟩
    have hstep : IsThreshold "0.5".toList ⟨0x3FE0000000000000⟩ :=
      ⟨by decide +kernel, by decide +kernel⟩
    exact .attr hdevice hpath ⟨by decide +kernel, by decide +kernel⟩
      ⟨by decide +kernel, by decide +kernel⟩ (Option.Rel.some hstep)
  have hcalls := dispatch_calls_of_engineLine Setting.shipped session hline
  have hmem : .submit 1 (.writeAttributes (.resource 3 0 13) update) ∈
      (dispatch .shipped line session).events.calls := by
    rw [hcalls]
    exact List.mem_singleton_self _
  obtain ⟨hsubmitted, -⟩ := dispatch_writesAttributes .shipped session line
  obtain ⟨hrefusing, -⟩ :=
    dispatch_writesAttributes .shipped session "attr 1 /3/0/13 1.5 inf".toList
  obtain ⟨-, path, other, hrequest, hproper⟩ :=
    hsubmitted.submitted "attr" (by decide) (by rw [hwords]; rfl) _ _ hmem
  obtain ⟨rfl, rfl⟩ := Request.writeAttributes.inj hrequest
  have hinfinite : ∀ number, Binary64.ofText? "inf".toList = some number →
      number.isFinite = false := by
    have hread : (Binary64.ofText? "inf".toList).all (!·.isFinite) := by decide +kernel
    intro number hnumber
    rw [hnumber] at hread
    simpa using hread
  have hrefused := hrefusing.refused ['1'] "/3/0/13".toList ["1.5".toList, "inf".toList]
    "inf".toList (by decide +kernel) (by simp) hinfinite
  exact ⟨hcalls, hproper, by decide, hrefused.2⟩

end DeviceConsole
