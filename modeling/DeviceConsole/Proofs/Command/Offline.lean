import DeviceConsole.Proofs.Command.Replies

/-!
# Replies without a protocol

Without a protocol the reply to a line depends on the line and on the payload conventions alone: no
device is listed, no text is taken for records, and every request is refused because its device
cannot be found.  A request that needs a payload is refused before that when its text is none.

Main results:

- Definition {lit}`OfflineEngine.reply`: the reply to a line.
- Theorem {lit}`OfflineEngine.repliesOffline`: what is replied to the commands of the operator's.
- Theorem {lit}`dispatch_offline`: what is written for a line is the reply.
-/

namespace DeviceConsole

variable {ω : Type}

namespace OfflineEngine

/-! ## The reply to a line -/

/-- The reply to every request that gets as far as the engine. -/
def notFound : String :=
  "Error: 4.04 (Not Found)"

/-- The reply to a creation, by what the convention of its object makes of the text. -/
def creationReply : Option (Except CommandFailure (List Record)) → String
  | none => "Syntax error !"
  | some (.error failure) => failure.message
  | some (.ok _) => notFound

/-- The reply to a command. -/
def commandReply (fallbacks : Fallbacks) : Command → String
  | .list => "No client.\n"
  | .overview => CommandEntry.overview
  | .explain entry => entry.explanation ++ "\n"
  | .submit _ _ => notFound
  | .write _ _ _ isPartial => if isPartial then "Syntax error !" else notFound
  | .create _ path text => creationReply (fallbacks.parse? path.objectId text)
  | .quit => ""

/-- The reply to a line. -/
def reply (fallbacks : Fallbacks) (line : List Char) : String :=
  match Command.ofLine? line with
  | none => ""
  | some ⟨_, .ok command⟩ => commandReply fallbacks command
  | some ⟨_, .error failure⟩ => failure.message

section

variable {S : Setting OfflineEngine ω} (state : OfflineEngine)
  (hengine : S.engine = OfflineEngine.engine)

include hengine

theorem listing_eq : (S.engine.registry state).listing = "No client.\n" := by
  rw [hengine]
  rfl

theorem decode_eq (path : Path) (text : String) : S.engine.decode state path text = [] := by
  rw [hengine]
  rfl

theorem submit_eq (device : DeviceId) (request : Request) :
    (S.engine.submit state device request).value = .error .notFound := by
  rw [hengine]
  rfl

/-- What is replied to a command is what the command comes to. -/
theorem commandReply_eq (hfallbacks : S.fallbacks.FacesOperator) (command : Command) :
    ((command.handling S state).reply? S.engine state).getD "" =
      commandReply S.fallbacks command := by
  have hrefused (device : DeviceId) (request : Request) :
      Handling.answerText (S.engine.submit state device request).value = notFound := by
    rw [submit_eq state hengine]
    decide
  cases command with
  | list => exact listing_eq state hengine
  | overview => rfl
  | explain entry => rfl
  | submit device request => exact hrefused device request
  | write device path text isPartial =>
      rw [Command.handling, decode_eq state hengine]
      cases isPartial with
      | true => rfl
      | false => exact hrefused device _
  | create device path text =>
      rw [Command.handling, decode_eq state hengine, commandReply, Command.createRecords]
      cases hparse : S.fallbacks.parse? path.objectId text with
      | none => rfl
      | some parsed =>
          cases parsed with
          | ok records => exact hrefused device _
          | error failure =>
              have hfacing := hfallbacks _ _ _ hparse
              change (if failure.isOperatorFacing then some failure.message else none).getD "" = _
              rw [if_pos hfacing]
              rfl
  | quit => rfl

/-- What is replied to a line is what the line comes to. -/
theorem reply_eq (hfallbacks : S.fallbacks.FacesOperator) (line : List Char) :
    ((handlingOf S state line).reply? S.engine state).getD "" = reply S.fallbacks line := by
  unfold handlingOf reply
  cases hline : Command.ofLine? line with
  | none => rfl
  | some typed =>
      rcases typed with ⟨keyword, failure | command⟩
      · have hmistake := (ofLine?_yields hline).2 failure rfl
        cases hmistake <;> rfl
      · exact commandReply_eq state hengine hfallbacks command

/-- No line is answered like one whose request was accepted. -/
theorem reply_ne_ok (hfallbacks : S.fallbacks.FacesOperator) (line : List Char) :
    reply S.fallbacks line ≠ "OK" := by
  intro hok
  -- The reply is the same in every state of the engine.
  let state : OfflineEngine := ⟨0⟩
  rw [← reply_eq state hengine hfallbacks] at hok
  obtain ⟨device, request, hsubmitted⟩ := (replyCase S state line hfallbacks).eq_ok_iff.mp hok
  cases hhandling : handlingOf S state line with
  | submits other request =>
      rw [hhandling, Handling.submissions, submit_eq state hengine] at hsubmitted
      simp at hsubmitted
  | _ => simp [hhandling, Handling.submissions] at hsubmitted

end

/-! ## The replies to commands -/

/-- What is replied to the lines of the operator's. -/
structure RepliesOffline (fallbacks : Fallbacks) : Prop where
  /-- No line is answered like one whose request was accepted. -/
  ne_ok : ∀ line, reply fallbacks line ≠ "OK"
  list : ∀ line, Words.ofLine line = ["list".toList] → reply fallbacks line = "No client.\n"
  /-- No device is found for a request. -/
  submit : ∀ line device request, EngineLine (Words.ofLine line) (.submit device request) →
    reply fallbacks line = "Error: 4.04 (Not Found)"
  write : ∀ line device path text, EngineLine (Words.ofLine line) (.write device path text false) →
    reply fallbacks line = "Error: 4.04 (Not Found)"
  /-- The text of a partial write is never taken for records. -/
  update : ∀ line words, Words.ofLine line = "update".toList :: words →
    reply fallbacks line = "Syntax error !"
  /-- Nor is that of a creation, but the convention of the object may have some. -/
  create : ∀ line device path text, EngineLine (Words.ofLine line) (.create device path text) →
    reply fallbacks line = creationReply (fallbacks.parse? path.objectId text)

/-- The reply to a line that asks something of the engine is that to the command. -/
theorem reply_of_engineLine (fallbacks : Fallbacks) {line : List Char} {command : Command}
    (hline : EngineLine (Words.ofLine line) command) :
    reply fallbacks line = commandReply fallbacks command := by
  obtain ⟨⟨keyword, _⟩, htyped, rfl, -⟩ := Command.engineLine_iff.mpr hline
  rw [reply, htyped]

/-- So is the reply to a line that asks for the devices. -/
theorem reply_of_list (fallbacks : Fallbacks) {line : List Char}
    (hwords : Words.ofLine line = ["list".toList]) : reply fallbacks line = "No client.\n" := by
  rw [reply, Command.ofLine?_of_list hwords]
  rfl

/-- A line that asks for a partial write is answered alike whether it is well formed or not. -/
theorem reply_of_update (fallbacks : Fallbacks) {line : List Char} {words : List (List Char)}
    (hwords : Words.ofLine line = "update".toList :: words) :
    reply fallbacks line = "Syntax error !" := by
  obtain ⟨entry, hentry, hkeyword, hform, hparameter⟩ :=
    Command.entry_of_writeKeyword (by decide : ("update", true) ∈ writeKeywords)
  rw [← hkeyword] at hwords
  obtain ⟨text, -, htyped⟩ := Command.ofLine?_of_keyword hentry hwords
  rw [reply, htyped, hform, hparameter]
  cases hread : (Command.readForm .write (.write true)).read text with
  | error failure =>
      rw [badSyntax_of_readForm hread]
      rfl
  | ok command =>
      obtain ⟨-, -, -, -, device, path, -, -, -, word, -, rfl, -⟩ :=
        (Takes.onTarget fun device path => Takes.lastWord fun word =>
          Command.write device path (String.ofList word) true).read_iff.mp hread
      rfl

theorem repliesOffline {fallbacks : Fallbacks} (hfallbacks : fallbacks.FacesOperator) :
    RepliesOffline fallbacks where
  ne_ok line := by
    let S : Setting OfflineEngine ScriptedHost := { Setting.shipped with fallbacks }
    exact @reply_ne_ok _ S rfl hfallbacks line
  list line hwords := reply_of_list fallbacks hwords
  submit line device request hline := reply_of_engineLine fallbacks hline
  write line device path text hline := reply_of_engineLine fallbacks hline
  update line words hwords := reply_of_update fallbacks hwords
  create line device path text hline := reply_of_engineLine fallbacks hline

end OfflineEngine

/-- What is written for a line on a screen without a limit is the reply. -/
theorem dispatch_offline {S : Setting OfflineEngine ω} (hengine : S.engine = OfflineEngine.engine)
    (hfallbacks : S.fallbacks.FacesOperator) {session : Session OfflineEngine ω}
    (hroom : session.console.room = none) (line : List Char) :
    (dispatch S line session).events.output =
        Utf8.encode (OfflineEngine.reply S.fallbacks line) ∧
      Utf8.encode "OK" ∉ (dispatch S line session).events.texts := by
  have hhandled := dispatch_handled S session line
  have hreply := OfflineEngine.reply_eq session.engine hengine hfallbacks line
  have hclip (bytes : List UInt8) : session.console.clip bytes = bytes := by
    rw [Console.clip, hroom]
  constructor
  · rw [hhandled.output, hclip, hreply]
  · rw [hhandled.texts]
    intro hmem
    obtain ⟨text, htext, hok⟩ := List.mem_map.mp hmem
    rw [hclip] at hok
    obtain rfl := Utf8.encode_injective hok
    rw [Option.mem_toList.mp htext] at hreply
    exact OfflineEngine.reply_ne_ok hengine hfallbacks line hreply.symm

end DeviceConsole
