import DeviceConsole.Engine.Offline
import DeviceConsole.Proofs.Command.Mistakes
import DeviceConsole.Script.Host

/-!
# What a reply tells about a request

The operator reads off the reply what became of a request.  This works because the texts that
answer a request end in other characters than all the texts that are no such answers, and because
two statuses are never written alike.

Main results:

- Theorem {lit}`Status.text_injective`: no two statuses are written alike.
- Theorem {lit}`dispatch_repliesTruly`: the reply says whether a request was submitted for a line
  and how it was answered.
-/

namespace DeviceConsole

variable {η ω : Type}

/-! ## Texts that can be told apart -/

/-- Texts with the same bytes are the same. -/
theorem Utf8.encode_injective : Function.Injective encode := by
  intro left right h
  rw [← String.toByteArray_inj, ← String.utf8Encode_toList, ← String.utf8Encode_toList]
  exact congrArg List.toByteArray h

/-- Whether a text ends in a character. -/
def EndsIn (text : String) (c : Char) : Prop :=
  text.toList.getLast? = some c

instance (text : String) (c : Char) : Decidable (EndsIn text c) :=
  inferInstanceAs (Decidable (text.toList.getLast? = some c))

theorem EndsIn.append {last : String} {c : Char} (hlast : EndsIn last c) (front : String) :
    EndsIn (front ++ last) c := by
  unfold EndsIn at *
  rw [String.toList_append, List.getLast?_append, hlast]
  rfl

/-- Texts that end in different characters are different. -/
theorem EndsIn.ne {left right : String} {c d : Char} (hleft : EndsIn left c)
    (hright : EndsIn right d) (hne : c ≠ d) : left ≠ right := by
  rintro rfl
  exact hne (Option.some.inj (hleft.symm.trans hright))

theorem endsIn_line (text : String) : EndsIn (text ++ "\n") '\n' :=
  EndsIn.append (by decide) text

/-- Lines in a row end in the end of a line. -/
theorem endsIn_join {lines : List String} (hne : lines ≠ [])
    (hlines : ∀ line ∈ lines, EndsIn line '\n') : EndsIn (String.join lines) '\n' := by
  obtain ⟨init, last, rfl⟩ := (List.eq_nil_or_concat lines).resolve_left hne
  have hjoin : String.join (init.concat last) = String.join init ++ last := by
    simp [String.join, List.concat_eq_append]
  rw [hjoin]
  exact (hlines last (by simp)).append _

theorem Registry.endsIn_listing (registry : Registry) : EndsIn registry.listing '\n' := by
  unfold listing isEmpty
  split
  · decide
  · rename_i hdevices
    refine endsIn_join (by simpa using hdevices) ?_
    intro line hmem
    obtain ⟨device, -, rfl⟩ := List.mem_map.mp hmem
    exact endsIn_line _

theorem CommandEntry.endsIn_overview : EndsIn overview '\n' := by
  refine (endsIn_join (by decide) ?_).append _
  intro line hmem
  obtain ⟨entry, -, rfl⟩ := List.mem_map.mp hmem
  exact endsIn_line _

/-! ## Texts of statuses -/

namespace Status

/-- The digits of a code: its class, a point and the detail. -/
def digits (code : UInt8) : String :=
  toString (code >>> 5).toNat ++ "." ++ Decimal.padded 2 (code &&& 0x1F).toNat

/-- A code can be read off its four characters. -/
theorem digits_ofNat : ∀ n < 256, (digits (UInt8.ofNat n)).toList.length = 4 ∧
    32 * Decimal.value ((digits (UInt8.ofNat n)).toList.take 1) +
      Decimal.value ((digits (UInt8.ofNat n)).toList.drop 2) = n := by
  decide +kernel

theorem length_digits (code : UInt8) : (digits code).toList.length = 4 := by
  have h := (digits_ofNat code.toNat code.toNat_lt).1
  rwa [UInt8.ofNat_toNat] at h

theorem digits_injective : Function.Injective digits := by
  intro left right heq
  have hleft := (digits_ofNat left.toNat left.toNat_lt).2
  have hright := (digits_ofNat right.toNat right.toNat_lt).2
  rw [UInt8.ofNat_toNat] at hleft hright
  rw [heq, hright] at hleft
  exact UInt8.toNat.inj hleft.symm

theorem text_eq_digits (status : Status) :
    status.text = digits status.code ++ (" (" ++ status.name ++ ")") := by
  simp [text, digits, category, detail, String.append_assoc]

theorem mem_named_or_other (status : Status) : status ∈ named ∨ ∃ code, status = other code := by
  cases status with
  | other code => exact Or.inr ⟨code, rfl⟩
  | _ => exact Or.inl (by decide)

theorem name_ne_of_mem_named {status : Status} (h : status ∈ named) : status.name ≠ "Unknown" := by
  revert status
  decide

/-- A status is known by its code and its name. -/
theorem eq_of_code_of_name {left right : Status} (hcode : left.code = right.code)
    (hname : left.name = right.name) : left = right := by
  rcases left.mem_named_or_other with hleft | ⟨code, rfl⟩ <;>
    rcases right.mem_named_or_other with hright | ⟨other, rfl⟩
  · rw [← ofCode_code hleft, hcode, ofCode_code hright]
  · exact absurd hname (name_ne_of_mem_named hleft)
  · exact absurd hname.symm (name_ne_of_mem_named hright)
  · exact congrArg Status.other hcode

/-- No two statuses are written alike. -/
theorem text_injective : Function.Injective text := by
  intro left right heq
  rw [text_eq_digits, text_eq_digits] at heq
  have hchars := congrArg String.toList heq
  rw [String.toList_append, @String.toList_append (digits right.code)] at hchars
  obtain ⟨hdigits, hrest⟩ := List.append_inj hchars
    ((length_digits left.code).trans (length_digits right.code).symm)
  have hcode := digits_injective (String.toList_inj.mp hdigits)
  have hname : left.name = right.name := by
    simpa using String.toList_inj.mp hrest
  exact eq_of_code_of_name hcode hname

theorem endsIn_message (status : Status) :
    EndsIn (CommandFailure.rejected status).message ')' := by
  rw [CommandFailure.message_rejected, text_eq_digits]
  exact ((EndsIn.append (by decide) _).append _).append _

theorem eq_of_message {left right : Status}
    (h : (CommandFailure.rejected left).message = (CommandFailure.rejected right).message) :
    left = right := by
  rw [CommandFailure.message_rejected, CommandFailure.message_rejected] at h
  exact text_injective (by simpa using h)

end Status

/-! ## Texts that tell of no request -/

/-- The texts that may be shown when no request was submitted and none was refused: none at all, the
registered devices, help, and what is wrong with a line. -/
inductive TellsOfNone (registry : Registry) : String → Prop where
  | nothing : TellsOfNone registry ""
  | badSyntax : TellsOfNone registry "Syntax error !"
  | invalidValue : TellsOfNone registry "Invalid value !"
  | unknownCommand : TellsOfNone registry "Unknown command. Type 'help' for help."
  | listing : TellsOfNone registry registry.listing
  | overview : TellsOfNone registry CommandEntry.overview
  | explanation {entry : CommandEntry} (hentry : entry ∈ CommandEntry.all) :
      TellsOfNone registry (entry.explanation ++ "\n")

namespace TellsOfNone

variable {registry : Registry} {text : String}

/-- A text that tells of no request ends in no letter and no bracket. -/
theorem ends (h : TellsOfNone registry text) :
    text = "" ∨ ∃ c, EndsIn text c ∧ c ≠ 'K' ∧ c ≠ ')' := by
  cases h with
  | nothing => exact Or.inl rfl
  | badSyntax => exact Or.inr ⟨'!', by decide, by decide, by decide⟩
  | invalidValue => exact Or.inr ⟨'!', by decide, by decide, by decide⟩
  | unknownCommand => exact Or.inr ⟨'.', by decide, by decide, by decide⟩
  | listing => exact Or.inr ⟨'\n', registry.endsIn_listing, by decide, by decide⟩
  | overview => exact Or.inr ⟨'\n', CommandEntry.endsIn_overview, by decide, by decide⟩
  | explanation hentry => exact Or.inr ⟨'\n', endsIn_line _, by decide, by decide⟩

theorem ne_ok (h : TellsOfNone registry text) : text ≠ "OK" := by
  rcases h.ends with rfl | ⟨c, hends, hne, -⟩
  · decide
  · exact hends.ne (by decide) hne

theorem ne_error (h : TellsOfNone registry text) (status : Status) :
    text ≠ (CommandFailure.rejected status).message := by
  have hmessage := status.endsIn_message
  rcases h.ends with rfl | ⟨c, hends, -, hne⟩
  · intro heq
    rw [← heq] at hmessage
    exact absurd hmessage (by decide)
  · exact hends.ne hmessage hne

end TellsOfNone

/-! ## What a reply tells -/

/-- Conventions whose failures can be told to the operator. -/
def Fallbacks.FacesOperator (fallbacks : Fallbacks) : Prop :=
  ∀ object text failure, fallbacks.parse? object text = some (.error failure) →
    failure.isOperatorFacing

/-- A line asks for a creation that the engine has no records for, and the convention of the object
rejects it with a status. -/
def RejectedByConvention (S : Setting η ω) (engine : η) (line : List Char) (status : Status) :
    Prop :=
  ∃ device path text, EngineLine (Words.ofLine line) (.create device path text) ∧
    S.engine.decode engine path text = [] ∧
    S.fallbacks.parse? path.objectId text = some (.error (.rejected status))

/-- What may be replied to a line: the answer to its request, the status with which a convention
rejects it, or a text that tells of no request. -/
inductive ReplyCase (S : Setting η ω) (engine : η) (line : List Char) :
    List Submission → String → Prop where
  | answered (device : DeviceId) (request : Request) :
      ReplyCase S engine line [⟨device, request, (S.engine.submit engine device request).value⟩]
        (Handling.answerText (S.engine.submit engine device request).value)
  | rejected {status : Status} (hrejected : RejectedByConvention S engine line status) :
      ReplyCase S engine line [] (CommandFailure.rejected status).message
  | none {text : String} (hnone : TellsOfNone (S.engine.registry engine) text) :
      ReplyCase S engine line [] text

section Reply

variable (S : Setting η ω) (engine : η) (line : List Char)

/-- A line that a convention rejects is not carried out for that. -/
theorem handlingOf_rejected {status : Status} (h : RejectedByConvention S engine line status) :
    handlingOf S engine line = .fails (.rejected status) := by
  obtain ⟨device, path, text, hline, hdecode, hparse⟩ := h
  rw [handlingOf_of_engineLine S engine hline, Command.handling, hdecode, Command.createRecords,
    hparse]
  rfl

theorem replyCase (hfallbacks : S.fallbacks.FacesOperator) :
    ReplyCase S engine line ((handlingOf S engine line).submissions S.engine engine)
      (((handlingOf S engine line).reply? S.engine engine).getD "") := by
  cases hhandling : handlingOf S engine line with
  | silent => exact .none .nothing
  | shows text =>
      refine .none ?_
      change TellsOfNone _ text
      rcases handlingOf_shows hhandling with rfl | rfl | ⟨entry, hentry, rfl⟩
      · exact .listing
      · exact .overview
      · exact .explanation hentry
  | fails failure =>
      rcases handlingOf_fails hhandling with hmistake | ⟨device, path, text, hline, hdecode, hparse⟩
      · cases hmistake with
        | badSyntax => exact .none .badSyntax
        | unknownCommand keyword => exact .none .unknownCommand
      · have hfacing := hfallbacks _ _ _ hparse
        cases failure with
        | badSyntax => exact .none .badSyntax
        | invalidValue => exact .none .invalidValue
        | unknownCommand keyword => exact .none .unknownCommand
        | rejected status => exact .rejected ⟨device, path, text, hline, hdecode, hparse⟩
        | output cause => simp [CommandFailure.isOperatorFacing] at hfacing
  | submits device request => exact .answered device request

/-- No failure is kept from the operator. -/
theorem withheld_handlingOf (hfallbacks : S.fallbacks.FacesOperator) :
    (handlingOf S engine line).withheld? = none := by
  cases hhandling : handlingOf S engine line with
  | fails failure =>
      rcases handlingOf_fails hhandling with hmistake | ⟨_, _, _, -, -, hparse⟩
      · cases hmistake <;> rfl
      · have hfacing := hfallbacks _ _ _ hparse
        cases failure with
        | output cause => simp [CommandFailure.isOperatorFacing] at hfacing
        | _ => rfl
  | _ => rfl

end Reply

namespace Handling

theorem answerText_eq_ok_iff {answer : Except Status Unit} :
    answerText answer = "OK" ↔ answer = .ok () := by
  cases answer with
  | ok _ => exact ⟨fun _ => rfl, fun _ => rfl⟩
  | error status =>
      have hends : EndsIn (CommandFailure.rejected status).message ')' := status.endsIn_message
      exact ⟨fun h => absurd h (hends.ne (by decide : EndsIn "OK" 'K') (by decide)), nofun⟩

theorem answerText_eq_message_iff {answer : Except Status Unit} {status : Status} :
    answerText answer = (CommandFailure.rejected status).message ↔ answer = .error status := by
  cases answer with
  | ok _ =>
      have hok : EndsIn "OK" 'K' := by decide
      exact ⟨fun h => absurd h (hok.ne status.endsIn_message (by decide)), nofun⟩
  | error other =>
      constructor
      · intro h
        exact congrArg Except.error (Status.eq_of_message h)
      · intro h
        rw [h]
        rfl

end Handling

namespace ReplyCase

variable {S : Setting η ω} {engine : η} {line : List Char} {submissions : List Submission}
  {text : String}

theorem length_le (h : ReplyCase S engine line submissions text) : submissions.length ≤ 1 := by
  cases h <;> simp

/-- The reply is that of an accepted request exactly when one was accepted. -/
theorem eq_ok_iff (h : ReplyCase S engine line submissions text) :
    text = "OK" ↔ ∃ device request, submissions = [⟨device, request, .ok ()⟩] := by
  cases h with
  | answered device request =>
      rw [Handling.answerText_eq_ok_iff]
      constructor
      · intro haccepted
        exact ⟨device, request, by rw [haccepted]⟩
      · rintro ⟨_, _, heq⟩
        exact congrArg Submission.answer (List.cons.inj heq).1
  | @rejected status hrejected =>
      have hends : EndsIn (CommandFailure.rejected status).message ')' := status.endsIn_message
      exact ⟨fun h => absurd h (hends.ne (by decide : EndsIn "OK" 'K') (by decide)), nofun⟩
  | none hnone => exact ⟨fun h => absurd h hnone.ne_ok, nofun⟩

/-- The reply shows a status only when a request was refused with it, or a convention has rejected
the line with it. -/
theorem of_message (h : ReplyCase S engine line submissions text) {status : Status}
    (htext : text = (CommandFailure.rejected status).message) :
    (∃ device request, submissions = [⟨device, request, .error status⟩]) ∨
      submissions = [] ∧ RejectedByConvention S engine line status := by
  cases h with
  | answered device request =>
      have hanswer := Handling.answerText_eq_message_iff.mp htext
      exact Or.inl ⟨device, request, by rw [hanswer]⟩
  | rejected hrejected =>
      obtain rfl := Status.eq_of_message htext
      exact Or.inr ⟨rfl, hrejected⟩
  | none hnone => exact absurd htext (hnone.ne_error status)

/-- The answer to a request is what is replied. -/
theorem text_eq {device : DeviceId} {request : Request} {answer : Except Status Unit}
    (h : ReplyCase S engine line [⟨device, request, answer⟩] text) :
    text = Handling.answerText answer := by
  cases h with
  | answered => rfl

/-- Every other reply tells of no request, and none was submitted. -/
theorem tellsOfNone (h : ReplyCase S engine line submissions text) (hok : text ≠ "OK")
    (herror : ∀ status, text ≠ (CommandFailure.rejected status).message) :
    submissions = [] ∧ TellsOfNone (S.engine.registry engine) text := by
  cases h with
  | answered device request =>
      cases hanswer : (S.engine.submit engine device request).value with
      | ok _ => exact absurd (Handling.answerText_eq_ok_iff.mpr hanswer) hok
      | error status =>
          exact absurd (Handling.answerText_eq_message_iff.mpr hanswer) (herror status)
  | rejected hrejected => exact absurd rfl (herror _)
  | none hnone => exact ⟨rfl, hnone⟩

end ReplyCase

/-! ## What is asked of the engine -/

/-- The request of a call, when it submits one. -/
def EngineCall.request? : EngineCall → Option (DeviceId × Request)
  | submit device request => some (device, request)
  | _ => none

/-- The requests that the engine was called with. -/
def Trace.requests (trace : Trace) : List (DeviceId × Request) :=
  trace.calls.filterMap EngineCall.request?

/-- A request with the engine's answer to it. -/
def Engine.answered (engine : Engine η) (state : η) (asked : DeviceId × Request) : Submission :=
  ⟨asked.1, asked.2, (engine.submit state asked.1 asked.2).value⟩

namespace Command

variable (S : Setting η ω) (engine : η)

theorem answered_requestCalls {α : Type} (device : DeviceId) (request : α → Request)
    (payload : Except CommandFailure α) :
    ((requestCalls device request payload).filterMap EngineCall.request?).map
        (S.engine.answered engine) =
      (Handling.ofPayload device request payload).submissions S.engine engine := by
  cases payload <;> rfl

theorem answered_engineCalls (command : Command) :
    ((command.engineCalls S engine).filterMap EngineCall.request?).map (S.engine.answered engine) =
      (command.handling S engine).submissions S.engine engine := by
  cases command with
  | write device path text isPartial => exact answered_requestCalls S engine device _ _
  | create device path text => exact answered_requestCalls S engine device _ _
  | _ => rfl

end Command

/-- The engine's answers to the requests of a line are what it was told of them. -/
theorem answered_requests (S : Setting η ω) (session : Session η ω) (line : List Char) :
    (dispatch S line session).events.requests.map (S.engine.answered session.engine) =
      (dispatch S line session).events.submissions := by
  rw [(dispatch_handled S session line).submissions, Trace.requests, dispatch_calls, handlingOf]
  cases Command.ofLine? line with
  | none => rfl
  | some typed =>
      rcases typed with ⟨keyword, failure | command⟩
      · rfl
      · exact Command.answered_engineCalls S session.engine command

theorem Trace.output_eq_flatten (trace : Trace) : trace.output = trace.texts.flatten := by
  induction trace with
  | nil => rfl
  | cons event trace ih =>
      cases event with
      | wrote bytes => rw [output_wrote, texts_wrote, List.flatten_cons, ih]
      | _ => exact ih

/-- What the screen takes of the reply is written. -/
theorem Handled.output {S : Setting η ω} {session : Session η ω} {handling : Handling}
    {ran : Ran (Session η ω) (Except IoFailure Unit)} (h : Handled S session handling ran) :
    ran.events.output = session.console.clip (Utf8.encode
      ((handling.reply? S.engine session.engine).getD "")) := by
  rw [Trace.output_eq_flatten, h.texts]
  cases handling.reply? S.engine session.engine with
  | none => exact (Console.clip_nil session.console).symm
  | some text => exact List.append_nil _

/-! ## The reply to a line -/

/-- What a line leaves, and what it leaves on a screen that works. -/
structure RepliesTruly (S : Setting η ω) (session : Session η ω) (line : List Char)
    (ran full : Ran (Session η ω) (Except IoFailure Unit)) : Prop where
  /-- At most one request is submitted, and the answer is the engine's. -/
  once : ran.events.requests.length ≤ 1
  answers : ran.events.submissions = ran.events.requests.map (S.engine.answered session.engine)
  /-- On a screen that works, the reply says that the request was accepted exactly when it was. -/
  accepted : full.events.output = Utf8.encode "OK" ↔
    ∃ device request, full.events.submissions = [⟨device, request, .ok ()⟩]
  /-- It shows a status exactly when the request was refused with it, or none was submitted because
  the convention of a creation has rejected the text with it. -/
  refused : ∀ status : Status, full.events.output = Utf8.encode ("Error: " ++ status.text) ↔
    (∃ device request, full.events.submissions = [⟨device, request, .error status⟩]) ∨
      full.events.submissions = [] ∧ RejectedByConvention S session.engine line status
  /-- Every other reply is one of those that tell of no request, and none was submitted. -/
  otherwise : full.events.output ≠ Utf8.encode "OK" →
    (∀ status : Status, full.events.output ≠ Utf8.encode ("Error: " ++ status.text)) →
      full.events.submissions = [] ∧ ∃ text, TellsOfNone (S.engine.registry session.engine) text ∧
        full.events.output = Utf8.encode text
  /-- The reply is written once, and a failure is given back exactly when that has failed. -/
  writes : ran.events.texts.length ≤ 1
  output : ran.events.output = session.console.clip full.events.output
  value : ran.value = (session.console.write full.events.output).result
  /-- What the screen takes makes no difference to the engine. -/
  submissions : ran.events.submissions = full.events.submissions
  engine : ran.session.engine = S.engine.after session.engine ran.events.submissions

/-- The reply says whether a request was submitted for a line and how it was answered, and a screen
that does not take it changes nothing about the request. -/
theorem dispatch_repliesTruly (S : Setting η ω) (hfallbacks : S.fallbacks.FacesOperator)
    (session : Session η ω) (line : List Char) :
    RepliesTruly S session line (dispatch S line session)
      (dispatch S line { session with console := .working }) := by
  have hran := dispatch_handled S session line
  have hfull := dispatch_handled S { session with console := .working } line
  have hcase := replyCase S session.engine line hfallbacks
  have hwithheld := withheld_handlingOf S session.engine line hfallbacks
  have hanswers := answered_requests S session line
  let reply := ((handlingOf S session.engine line).reply? S.engine session.engine).getD ""
  have hreply : (dispatch S line { session with console := .working }).events.output =
      Utf8.encode reply := hfull.output
  have hsubmissions : (dispatch S line { session with console := .working }).events.submissions =
      (handlingOf S session.engine line).submissions S.engine session.engine := hfull.submissions
  have hsame (text : String) : Utf8.encode reply = Utf8.encode text ↔ reply = text :=
    Utf8.encode_injective.eq_iff
  constructor
  · rw [← List.length_map, hanswers, hran.submissions]
    exact hcase.length_le
  · exact hanswers.symm
  · rw [hreply, hsubmissions, hsame]
    exact hcase.eq_ok_iff
  · intro status
    rw [hreply, hsubmissions, hsame]
    constructor
    · exact hcase.of_message
    · rintro (⟨device, request, hrefused⟩ | ⟨-, hrejected⟩)
      · rw [hrefused] at hcase
        exact hcase.text_eq
      · simp only [reply, handlingOf_rejected S session.engine line hrejected]
        rfl
  · intro hok herror
    rw [hreply] at hok herror ⊢
    rw [hsubmissions]
    have hnone := hcase.tellsOfNone
      (fun h => hok ((hsame _).mpr h)) fun status h => herror status ((hsame _).mpr h)
    exact ⟨hnone.1, reply, hnone.2, rfl⟩
  · rw [hran.texts]
    cases (handlingOf S session.engine line).reply? S.engine session.engine <;> simp
  · rw [hreply]
    exact hran.output
  · rw [hreply, hran.value, hwithheld]
  · rw [hran.submissions, hsubmissions]
  · obtain ⟨host, token, hsession⟩ := hran.session
    rw [hsession]

/-! ### A rehearsal -/

/-- The console as it is shipped: no protocol, and the standard conventions. -/
def Setting.shipped : Setting OfflineEngine ScriptedHost where
  engine := OfflineEngine.engine
  host := ScriptedHost.host
  fallbacks := .standard
  keeps _ := false
  patience := 1

theorem Fallbacks.facesOperator_standard : standard.FacesOperator := by
  intro object text failure hparse
  rw [standard, parse?_insert] at hparse
  split at hparse
  · unfold bareInteger at hparse
    split at hparse
    · exact nomatch hparse
    · obtain rfl := Except.error.inj (Option.some.inj hparse)
      rfl
  · exact nomatch hparse

/-- On a screen with room for three bytes the status of a refused creation is cut off. -/
theorem dispatch_repliesTruly_shipped : Fallbacks.standard.FacesOperator ∧
    let session : Session OfflineEngine ScriptedHost := .start ⟨512⟩ .idle ⟨some 3, false⟩
    let line := "create 7 /31024/2 -5".toList
    RepliesTruly .shipped session line (dispatch .shipped line session)
        (dispatch .shipped line { session with console := .working }) ∧
      (dispatch .shipped line session).events.requests.length = 1 ∧
      (dispatch .shipped line session).value.toBool = false :=
  ⟨Fallbacks.facesOperator_standard,
    dispatch_repliesTruly .shipped Fallbacks.facesOperator_standard _ _, by decide +kernel,
    by decide +kernel⟩

end DeviceConsole
