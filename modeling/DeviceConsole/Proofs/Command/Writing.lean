import DeviceConsole.Proofs.Command.Handling
import DeviceConsole.Proofs.Reactor.Requests
import DeviceConsole.Script.Engine
import DeviceConsole.Script.Host

/-!
# Writes

A full and a partial write are read alike: the typed text is decoded once, and the records that it
stands for are submitted.  A text that stands for none is submitted as it was typed by a full write
and refused by a partial one.  The payload of a write therefore always suits it.

Main results:

- Theorem {lit}`Command.suits_of_engineCalls`: no line submits a payload that does not suit.
- Theorem {lit}`writesLine`: what becomes of a line that writes.
- Theorem {lit}`dispatch_picksPayload`: both keywords on the same arguments, and all writes of a
  run.
-/

namespace DeviceConsole

variable {η ω : Type}

/-! ## Payloads -/

/-- Whether a write may carry a payload: records when there are any, and a text when it is full. -/
def Payload.Suits (isPartial : Bool) : Payload → Prop
  | .records list => list ≠ []
  | .text _ => isPartial = false

namespace Command

theorem writePayload_of_ne {records : List Record} (hne : records ≠ []) (text : String)
    (isPartial : Bool) : writePayload records text isPartial = .ok (.records records) := by
  unfold writePayload
  rw [if_pos (by simpa using hne)]

theorem writePayload_nil (text : String) (isPartial : Bool) :
    writePayload [] text isPartial = if isPartial then .error .badSyntax else .ok (.text text) :=
  rfl

/-- The payload that is picked suits the write. -/
theorem suits_of_writePayload {records : List Record} {text : String} {isPartial : Bool}
    {payload : Payload} (h : writePayload records text isPartial = .ok payload) :
    payload.Suits isPartial := by
  by_cases hnil : records = []
  · rw [hnil, writePayload_nil] at h
    split at h
    · exact nomatch h
    · rename_i hfull
      rw [← Except.ok.inj h]
      exact Bool.eq_false_iff.mpr hfull
  · rw [writePayload_of_ne hnil] at h
    rw [← Except.ok.inj h]
    exact hnil

section

variable {S : Setting η ω} {engine : η} {words : List (List Char)} {command : Command}
  {device : DeviceId} {path : Path} {payload : Payload} {isPartial : Bool}

/-- No line submits a write whose payload does not suit it. -/
theorem suits_of_engineCalls (hline : EngineLine words command)
    (hcall : .submit device (.write path payload isPartial) ∈ command.engineCalls S engine) :
    payload.Suits isPartial := by
  cases submits_of_mem S hcall with
  | typed => exact nomatch hline
  | write hpayload => exact suits_of_writePayload hpayload

end

end Command

/-! ## Lines that write -/

/-- What a line leaves that writes a text to a path of a device. -/
structure WritesLine (S : Setting η ω) (session : Session η ω) (device : DeviceId) (path : Path)
    (text : String) (isPartial : Bool) (ran : Ran (Session η ω) (Except IoFailure Unit)) :
    Prop where
  /-- The records of the text are submitted when there are any. -/
  decoded : ∀ records, S.engine.decode session.engine path text = records → records ≠ [] →
    ran.events.calls =
      [.decode path text, .submit device (.write path (.records records) isPartial)]
  /-- A full write submits any other text as it was typed. -/
  verbatim : S.engine.decode session.engine path text = [] → isPartial = false →
    ran.events.calls = [.decode path text, .submit device (.write path (.text text) false)]
  /-- A partial write submits nothing for it, and says so. -/
  refused : S.engine.decode session.engine path text = [] → isPartial = true →
    ran.events.calls = [.decode path text] ∧
      ran.events.texts = [session.console.clip (Utf8.encode "Syntax error !")]

section

variable (S : Setting η ω) (session : Session η ω) {line : List Char} {device : DeviceId}
  {path : Path} {text : String} {isPartial : Bool}

theorem writesLine (hline : EngineLine (Words.ofLine line) (.write device path text isPartial)) :
    WritesLine S session device path text isPartial (dispatch S line session) := by
  have hcalls := dispatch_calls_of_engineLine S session hline
  rw [Command.engineCalls] at hcalls
  constructor
  · intro records hrecords hne
    rw [hcalls, hrecords, Command.writePayload_of_ne hne]
    rfl
  · rintro hnil rfl
    rw [hcalls, hnil, Command.writePayload_nil]
    rfl
  · rintro hnil rfl
    have hhandled := dispatch_handled S session line
    rw [handlingOf_of_engineLine S session.engine hline, Command.handling, hnil,
      Command.writePayload_nil] at hhandled
    constructor
    · rw [hcalls, hnil, Command.writePayload_nil]
      rfl
    · exact hhandled.texts

end

/-- The call that a partial write makes where a full one makes this. -/
def EngineCall.asUpdate? : EngineCall → Option EngineCall
  | .submit device (.write path (.records records) _) =>
      some (.submit device (.write path (.records records) true))
  | .submit _ (.write _ (.text _) _) => none
  | call => some call

/-- What becomes of the two keywords of writes with the same arguments. -/
structure PicksPayload (S : Setting η ω) (session : Session η ω) (first second word : List Char)
    (device : DeviceId) (path : Path) : Prop where
  full : ∀ line, Words.ofLine line = ["write".toList, first, second, word] →
    WritesLine S session device path (String.ofList word) false (dispatch S line session)
  partly : ∀ line, Words.ofLine line = ["update".toList, first, second, word] →
    WritesLine S session device path (String.ofList word) true (dispatch S line session)
  /-- They differ in the flag, and in the text that only a full write submits. -/
  alike : ∀ line other, Words.ofLine line = ["write".toList, first, second, word] →
    Words.ofLine other = ["update".toList, first, second, word] →
    (dispatch S other session).events.calls =
      (dispatch S line session).events.calls.filterMap EngineCall.asUpdate?

/-- The payloads of all writes suit them, whichever line asks for them. -/
structure KeepsPayloads (S : Setting η ω) : Prop where
  ofLine : ∀ line session device path payload isPartial,
    .submit device (.write path payload isPartial) ∈ (dispatch S line session).events.calls →
      payload.Suits isPartial
  ofRun : ∀ rounds session device path payload isPartial,
    .submit device (.write path payload isPartial) ∈
        (Reactor.run S rounds session).events.calls →
      payload.Suits isPartial

theorem keepsPayloads (S : Setting η ω) : KeepsPayloads S where
  ofLine := by
    intro line session device path payload isPartial hcall
    obtain ⟨command, hline, hasked⟩ := exists_engineLine_of_mem_calls S session hcall
    exact Command.suits_of_engineCalls hline hasked
  ofRun := by
    intro rounds session device path payload isPartial hcall
    obtain ⟨line, command, engine, hline, hasked⟩ := Reactor.exists_engineLine_of_run S hcall
    exact Command.suits_of_engineCalls hline hasked

/-- The payload of a write is picked as its text decodes, for any engine and on the same arguments
alike by both keywords; and whatever was typed, no partial write has a text and none is empty. -/
theorem dispatch_picksPayload (S : Setting η ω) (session : Session η ω)
    {first second : List Char} {device : DeviceId} {path : Path}
    (hdevice : IsNumeral first device.toNat) (hpath : IsTarget .write second path)
    (word : List Char) :
    PicksPayload S session first second word device path ∧ KeepsPayloads S := by
  have hwrites : ∀ keyword isPartial, (keyword, isPartial) ∈ writeKeywords → ∀ line,
      Words.ofLine line = [keyword.toList, first, second, word] →
        WritesLine S session device path (String.ofList word) isPartial
          (dispatch S line session) := by
    intro keyword isPartial hkeyword line hwords
    apply writesLine
    rw [hwords]
    exact .write hkeyword hdevice hpath word
  have hfull := hwrites "write" false (by simp [writeKeywords])
  have hpartly := hwrites "update" true (by simp [writeKeywords])
  refine ⟨⟨hfull, hpartly, ?_⟩, keepsPayloads S⟩
  intro line other hline hother
  by_cases hnil : S.engine.decode session.engine path (String.ofList word) = []
  · rw [(hfull line hline).verbatim hnil rfl, ((hpartly other hother).refused hnil rfl).1]
    rfl
  · rw [(hfull line hline).decoded _ rfl hnil, (hpartly other hother).decoded _ rfl hnil]
    rfl

/-- A console whose engine knows the records of some texts. -/
def Setting.rehearsed : Setting ScriptedEngine ScriptedHost where
  engine := ScriptedEngine.engine
  host := ScriptedHost.host
  fallbacks := .standard
  keeps _ := false
  patience := 1

/-- A text that decodes, by a partial write, and one that does not, by both. -/
theorem dispatch_picksPayload_rehearsed :
    let records := [Record.mk 14 (.boolean true)]
    let engine := { ScriptedEngine.idle with records := [("on", records)] }
    let session : Session ScriptedEngine ScriptedHost := .start engine .idle .working
    let path := Path.resource 3 0 14
    IsNumeral ['1'] (1 : DeviceId).toNat ∧ IsTarget .write "/3/0/14".toList path ∧
      (dispatch .rehearsed "update 1 /3/0/14 on".toList session).events.calls =
        [.decode path "on", .submit 1 (.write path (.records records) true)] ∧
      (dispatch .rehearsed "write 1 /3/0/14 +02".toList session).events.calls =
        [.decode path "+02", .submit 1 (.write path (.text "+02") false)] ∧
      (dispatch .rehearsed "update 1 /3/0/14 +02".toList session).events.texts =
        [Utf8.encode "Syntax error !"] := by
  intro records engine session path
  have hdevice : IsNumeral ['1'] (1 : DeviceId).toNat :=
    ⟨by decide, List.all_eq_true.mp (by decide), by decide⟩
  have hpath : IsTarget .write "/3/0/14".toList path :=
    ⟨by decide +kernel, by decide⟩
  have hon := (dispatch_picksPayload .rehearsed session hdevice hpath "on".toList).1
  have htwo := (dispatch_picksPayload .rehearsed session hdevice hpath "+02".toList).1
  refine ⟨hdevice, hpath, ?_, ?_, ?_⟩
  · exact (hon.partly _ (by decide +kernel)).decoded records rfl (by simp [records])
  · exact (htwo.full _ (by decide +kernel)).verbatim (by decide +kernel) rfl
  · exact ((htwo.partly _ (by decide +kernel)).refused (by decide +kernel) rfl).2

end DeviceConsole
