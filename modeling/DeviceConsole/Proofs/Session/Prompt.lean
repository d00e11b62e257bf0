import DeviceConsole.Display.Outcome
import DeviceConsole.Proofs.Session.Topics

/-!
# When a prompt is owed

The operator is owed a prompt at the start, and again for every outcome that the engine hands
over and every line that is taken.  Until it is paid nothing goes on but the answer to the
outcome or line, and after it nothing is written until the next one is owed.  A trace that
keeps to this can be followed with one bit of memory.

Main results:

- Theorem {lit}`PromptState.prompts_add_debt`: a followed trace has a prompt for every debt.
- Theorem {lit}`PromptState.shown_isSuffix`: while none is owed, the prompt is the last text.
- Theorem {lit}`PromptState.texts_of_shown`: of the texts that pay a debt, the last one ends in a
  prompt, and no other does.
-/

namespace DeviceConsole

/-! ## Texts and occasions -/

/-- Whether bytes end in a prompt. -/
def EndsInPrompt (bytes : List UInt8) : Prop :=
  Utf8.encode prompt <:+ bytes

instance (bytes : List UInt8) : Decidable (EndsInPrompt bytes) :=
  inferInstanceAs (Decidable (Utf8.encode prompt <:+ bytes))

theorem encode_prompt : Utf8.encode prompt = [0x3E, 0x20] := by
  decide

/-- Bytes with another last byte than the prompt do not end in one. -/
theorem not_endsInPrompt_concat (front : List UInt8) {last : UInt8} (hlast : last ≠ 0x20) :
    ¬ EndsInPrompt (front ++ [last]) := by
  rintro ⟨rest, hrest⟩
  rw [encode_prompt, show [0x3E, 0x20] = [0x3E] ++ [(0x20 : UInt8)] from rfl,
    ← List.append_assoc] at hrest
  exact hlast (List.cons.inj (List.append_inj_right' hrest rfl)).1.symm

/-- Whether an event is an occasion for a prompt: an outcome that the engine has handed over, or a
line that was taken. -/
def Event.isOccasion : Event → Bool
  | popped (some _) | lineTaken _ => true
  | _ => false

/-- Whether an event may come up while a prompt is owed: what it takes to answer an outcome or a
line, and the end of the console. -/
def Event.isAnswering : Event → Bool
  | checked (some _) => true
  | event => event.topic ∈ [.aside, .request, .stop, .link, .closing]

/-- Whether an event goes on with the console's work, and is not part of an answer. -/
def Event.goesOn (event : Event) : Bool :=
  event.topic ∈ [.step, .queue, .wait, .socket, .stream, .line]

theorem Event.goesOn_of_isOccasion {event : Event} (h : event.isOccasion) : event.goesOn := by
  cases event with
  | popped outcome => rfl
  | lineTaken line => rfl
  | _ => simp [isOccasion] at h

theorem Event.isAnswering_of_goesOn {event : Event} (h : event.goesOn) :
    event.isAnswering = false := by
  unfold goesOn at h
  unfold isAnswering
  split
  · simp [topic] at h
  · generalize event.topic = topic at h ⊢
    cases topic <;> simp at h ⊢

namespace Trace

/-- The texts that were written. -/
def texts (trace : Trace) : List (List UInt8) :=
  trace.filterMap fun
    | .wrote bytes => some bytes
    | _ => none

/-- The number of prompts that were written. -/
def prompts (trace : Trace) : Nat :=
  trace.texts.countP (EndsInPrompt ·)

/-- The outcomes that the engine has handed over. -/
def delivered (trace : Trace) : List Outcome :=
  trace.filterMap fun
    | .popped outcome => outcome
    | _ => none

/-- The number of occasions for a prompt. -/
def occasions (trace : Trace) : Nat :=
  trace.countP Event.isOccasion

/-- The occasions are the outcomes and the lines. -/
theorem occasions_eq (trace : Trace) :
    trace.occasions = trace.delivered.length + trace.lines.length := by
  induction trace with
  | nil => rfl
  | cons event trace ih =>
      unfold occasions delivered lines at ih ⊢
      rw [List.countP_cons, ih]
      cases event with
      | popped outcome => cases outcome <;> simp [Event.isOccasion]; omega
      | lineTaken line => simp [Event.isOccasion]; omega
      | _ => simp [Event.isOccasion]

theorem texts_append (left right : Trace) : texts (left ++ right) = texts left ++ texts right :=
  List.filterMap_append

theorem texts_wrote (bytes : List UInt8) (trace : Trace) :
    texts (.wrote bytes :: trace) = bytes :: texts trace :=
  rfl

theorem texts_cons_of_ne {event : Event} (hevent : ∀ bytes, event ≠ .wrote bytes)
    (trace : Trace) : texts (event :: trace) = texts trace := by
  cases event with
  | wrote bytes => exact absurd rfl (hevent bytes)
  | _ => rfl

theorem output_wrote (bytes : List UInt8) (trace : Trace) :
    output (.wrote bytes :: trace) = bytes ++ output trace :=
  rfl

theorem output_cons_of_ne {event : Event} (hevent : ∀ bytes, event ≠ .wrote bytes)
    (trace : Trace) : output (event :: trace) = output trace := by
  cases event with
  | wrote bytes => exact absurd rfl (hevent bytes)
  | _ => rfl

end Trace

/-! ## Following a trace -/

/-- Whether the operator is at a prompt. -/
inductive PromptState where
  /-- The prompt is the last text on the screen. -/
  | shown
  /-- The operator waits for a prompt. -/
  | owed
deriving DecidableEq, Repr

namespace PromptState

/-- What becomes of the prompt at an event, if the event may come up. -/
def after : PromptState → Event → Option PromptState
  | shown, .wrote _ => none
  | shown, event => some (if event.isOccasion then owed else shown)
  | owed, .wrote bytes => some (if EndsInPrompt bytes then shown else owed)
  | owed, event => if event.isAnswering then some owed else none

/-- What becomes of the prompt during a trace, if the trace may come up. -/
def follow (state : PromptState) (trace : Trace) : Option PromptState :=
  trace.foldlM after state

theorem follow_nil (state : PromptState) : state.follow [] = some state :=
  rfl

theorem follow_cons (state : PromptState) (event : Event) (trace : Trace) :
    state.follow (event :: trace) = (state.after event).bind fun next => next.follow trace :=
  List.foldlM_cons ..

theorem follow_append (state : PromptState) (left right : Trace) :
    state.follow (left ++ right) = (state.follow left).bind fun next => next.follow right :=
  List.foldlM_append ..

/-- Every event of a followed trace has the prompt's state in front of it and behind it. -/
theorem follow_split {state last : PromptState} {before after : Trace} {event : Event}
    (h : state.follow (before ++ event :: after) = some last) :
    ∃ mid next, state.follow before = some mid ∧ mid.after event = some next ∧
      next.follow after = some last := by
  rw [follow_append] at h
  obtain ⟨mid, hbefore, hrest⟩ := Option.bind_eq_some_iff.mp h
  rw [follow_cons] at hrest
  obtain ⟨next, hevent, hafter⟩ := Option.bind_eq_some_iff.mp hrest
  exact ⟨mid, next, hbefore, hevent, hafter⟩

theorem shown_after {event : Event} (hwrote : ∀ bytes, event ≠ .wrote bytes) :
    shown.after event = some (if event.isOccasion then owed else shown) := by
  cases event with
  | wrote bytes => exact absurd rfl (hwrote bytes)
  | _ => rfl

theorem owed_after {event : Event} (hwrote : ∀ bytes, event ≠ .wrote bytes) :
    owed.after event = if event.isAnswering then some owed else none := by
  cases event with
  | wrote bytes => exact absurd rfl (hwrote bytes)
  | _ => rfl

/-- At a prompt nothing is written, and an occasion makes one owed. -/
theorem after_shown {next : PromptState} {event : Event} (h : shown.after event = some next) :
    (∀ bytes, event ≠ .wrote bytes) ∧ next = if event.isOccasion then owed else shown := by
  have hwrote : ∀ bytes, event ≠ .wrote bytes := by
    rintro bytes rfl
    exact nomatch h
  rw [shown_after hwrote] at h
  exact ⟨hwrote, (Option.some.inj h).symm⟩

/-- While a prompt is owed, a text that ends in one pays it, and everything else is part of the
answer. -/
theorem after_owed {next : PromptState} {event : Event} (h : owed.after event = some next) :
    (∃ bytes, event = .wrote bytes ∧ next = if EndsInPrompt bytes then shown else owed) ∨
      ((∀ bytes, event ≠ .wrote bytes) ∧ event.isAnswering ∧ next = owed) := by
  by_cases hwrote : ∃ bytes, event = .wrote bytes
  · obtain ⟨bytes, rfl⟩ := hwrote
    exact Or.inl ⟨bytes, rfl, (Option.some.inj h).symm⟩
  · rw [owed_after (not_exists.mp hwrote)] at h
    obtain ⟨hanswering, hnext⟩ := Option.ite_some_none_eq_some.mp h
    exact Or.inr ⟨not_exists.mp hwrote, hanswering, hnext.symm⟩

theorem isOccasion_of_isAnswering {event : Event} (h : event.isAnswering) :
    event.isOccasion = false := by
  cases hoccasion : event.isOccasion with
  | false => rfl
  | true => simp [Event.isAnswering_of_goesOn (Event.goesOn_of_isOccasion hoccasion)] at h

/-- The console goes on at a prompt only. -/
theorem eq_shown {state next : PromptState} {event : Event} (h : state.after event = some next)
    (hgoes : event.goesOn) : state = shown ∧ next = if event.isOccasion then owed else shown := by
  cases state with
  | shown => exact ⟨rfl, (after_shown h).2⟩
  | owed =>
      rcases after_owed h with ⟨bytes, rfl, -⟩ | ⟨-, hanswering, -⟩
      · simp [Event.goesOn, Event.topic] at hgoes
      · simp [Event.isAnswering_of_goesOn hgoes] at hanswering

/-- What shows nothing and is no occasion leaves the operator at the prompt. -/
theorem follow_shown {trace : Trace}
    (h : ∀ event ∈ trace, event.topic ≠ .screen ∧ event.isOccasion = false) :
    shown.follow trace = some shown := by
  induction trace with
  | nil => rfl
  | cons event trace ih =>
      obtain ⟨hscreen, hoccasion⟩ := h event List.mem_cons_self
      have hwrote : ∀ bytes, event ≠ .wrote bytes := by
        rintro bytes rfl
        exact hscreen rfl
      rw [follow_cons, shown_after hwrote, hoccasion]
      exact ih fun other hmem => h other (List.mem_cons_of_mem _ hmem)

/-- What may come up in an answer leaves the prompt owed. -/
theorem follow_owed {trace : Trace} (h : ∀ event ∈ trace, event.isAnswering) :
    owed.follow trace = some owed := by
  induction trace with
  | nil => rfl
  | cons event trace ih =>
      have hanswering := h event List.mem_cons_self
      have hwrote : ∀ bytes, event ≠ .wrote bytes := by
        rintro bytes rfl
        simp [Event.isAnswering, Event.topic] at hanswering
      rw [follow_cons, owed_after hwrote, if_pos hanswering]
      exact ih fun other hmem => h other (List.mem_cons_of_mem _ hmem)

/-! ### What a followed trace shows -/

/-- How many prompts are owed. -/
def debt : PromptState → Nat
  | shown => 0
  | owed => 1

/-- A followed trace has a prompt for every debt. -/
theorem prompts_add_debt {state last : PromptState} {trace : Trace}
    (h : state.follow trace = some last) :
    trace.prompts + last.debt = state.debt + trace.occasions := by
  induction trace generalizing state with
  | nil =>
      obtain rfl : state = last := Option.some.inj h
      simp [Trace.prompts, Trace.texts, Trace.occasions]
  | cons event trace ih =>
      rw [follow_cons] at h
      obtain ⟨next, hevent, hrest⟩ := Option.bind_eq_some_iff.mp h
      have hcount := ih hrest
      have hoccasions : Trace.occasions (event :: trace) =
          Trace.occasions trace + if event.isOccasion then 1 else 0 := List.countP_cons
      unfold Trace.prompts at hcount ⊢
      cases state with
      | shown =>
          obtain ⟨hwrote, rfl⟩ := after_shown hevent
          rw [Trace.texts_cons_of_ne hwrote, hoccasions]
          cases hoccasion : event.isOccasion <;> simp_all [debt]
          omega
      | owed =>
          rcases after_owed hevent with ⟨bytes, rfl, rfl⟩ | ⟨hwrote, hanswering, rfl⟩
          · rw [Trace.texts_wrote, List.countP_cons, hoccasions]
            by_cases hprompt : EndsInPrompt bytes
            · simp_all [debt, Event.isOccasion]
              omega
            · simp_all [debt, Event.isOccasion]
          · rw [Trace.texts_cons_of_ne hwrote, hoccasions, isOccasion_of_isAnswering hanswering]
            exact hcount

/-- While none is owed, the prompt is the last text. -/
theorem shown_isSuffix {state : PromptState} {trace : Trace} {past : List UInt8}
    (h : state.follow trace = some shown) (hpast : state = shown → EndsInPrompt past) :
    EndsInPrompt (past ++ trace.output) := by
  induction trace generalizing state past with
  | nil =>
      obtain rfl : state = shown := Option.some.inj h
      simpa [Trace.output] using hpast rfl
  | cons event trace ih =>
      rw [follow_cons] at h
      obtain ⟨next, hevent, hrest⟩ := Option.bind_eq_some_iff.mp h
      cases state with
      | shown =>
          obtain ⟨hwrote, hnext⟩ := after_shown hevent
          rw [Trace.output_cons_of_ne hwrote]
          exact ih hrest fun _ => hpast rfl
      | owed =>
          rcases after_owed hevent with ⟨bytes, rfl, hnext⟩ | ⟨hwrote, -, rfl⟩
          · rw [Trace.output_wrote, ← List.append_assoc]
            refine ih hrest fun hshown => ?_
            by_cases hprompt : EndsInPrompt bytes
            · exact hprompt.trans (List.suffix_append past bytes)
            · simp [hnext, hprompt] at hshown
          · rw [Trace.output_cons_of_ne hwrote]
            exact ih hrest hpast

/-- Without an occasion nothing is written behind a prompt. -/
theorem texts_of_quiet {next : PromptState} {trace : Trace} (h : shown.follow trace = some next)
    (hquiet : ∀ event ∈ trace, event.isOccasion = false) : next = shown ∧ trace.texts = [] := by
  induction trace with
  | nil => exact ⟨(Option.some.inj h).symm, rfl⟩
  | cons event trace ih =>
      rw [follow_cons] at h
      obtain ⟨mid, hevent, hrest⟩ := Option.bind_eq_some_iff.mp h
      obtain ⟨hwrote, rfl⟩ := after_shown hevent
      rw [hquiet event List.mem_cons_self, if_neg (by simp)] at hrest
      rw [Trace.texts_cons_of_ne hwrote]
      exact ih hrest fun other hmem => hquiet other (List.mem_cons_of_mem _ hmem)

/-- Of the texts that pay a debt, the last one ends in a prompt, and no other does. -/
theorem texts_of_shown {trace : Trace} (h : owed.follow trace = some shown)
    (hquiet : ∀ event ∈ trace, event.isOccasion = false) :
    ∃ front last, trace.texts = front ++ [last] ∧ EndsInPrompt last ∧
      ∀ text ∈ front, ¬ EndsInPrompt text := by
  induction trace with
  | nil => exact nomatch h
  | cons event trace ih =>
      rw [follow_cons] at h
      obtain ⟨mid, hevent, hrest⟩ := Option.bind_eq_some_iff.mp h
      have hquiet' : ∀ other ∈ trace, other.isOccasion = false :=
        fun other hmem => hquiet other (List.mem_cons_of_mem _ hmem)
      rcases after_owed hevent with ⟨bytes, rfl, rfl⟩ | ⟨hwrote, -, rfl⟩
      · by_cases hprompt : EndsInPrompt bytes
        · rw [if_pos hprompt] at hrest
          have htexts := (texts_of_quiet hrest hquiet').2
          exact ⟨[], bytes, by rw [Trace.texts_wrote, htexts]; rfl, hprompt, by simp⟩
        · rw [if_neg hprompt] at hrest
          obtain ⟨front, last, htexts, hlast, hfront⟩ := ih hrest hquiet'
          refine ⟨bytes :: front, last, by rw [Trace.texts_wrote, htexts]; rfl, hlast, ?_⟩
          intro text hmem
          rcases List.mem_cons.mp hmem with rfl | hmem
          · exact hprompt
          · exact hfront text hmem
      · rw [Trace.texts_cons_of_ne hwrote]
        exact ih hrest hquiet'

/-! ### The places where the console goes on -/

variable {last : PromptState} {trace before during after : Trace} {event : Event}

/-- Whenever the console goes on, it does so at a prompt, and there was one for each occasion. -/
theorem at_prompt (h : owed.follow (before ++ event :: after) = some last) (hgoes : event.goesOn) :
    EndsInPrompt before.output ∧
      before.prompts = 1 + before.delivered.length + before.lines.length := by
  obtain ⟨mid, next, hbefore, hevent, -⟩ := follow_split h
  obtain ⟨rfl, -⟩ := eq_shown hevent hgoes
  have hcount := prompts_add_debt hbefore
  rw [Trace.occasions_eq] at hcount
  have hscreen : EndsInPrompt ([] ++ before.output) := shown_isSuffix hbefore nofun
  exact ⟨hscreen, by simpa [debt, Nat.add_assoc] using hcount⟩

/-- What is written for an occasion before the console goes on ends in a prompt. -/
theorem last_text {state : PromptState} {goes : Event}
    (h : state.follow (before ++ event :: (during ++ goes :: after)) = some last)
    (hoccasion : event.isOccasion) (hgoes : goes.goesOn)
    (hquiet : ∀ other ∈ during, other.isOccasion = false) :
    ∃ front text, during.texts = front ++ [text] ∧ EndsInPrompt text ∧
      ∀ other ∈ front, ¬ EndsInPrompt other := by
  obtain ⟨mid, next, -, hevent, hrest⟩ := follow_split h
  obtain ⟨-, rfl⟩ := eq_shown hevent (Event.goesOn_of_isOccasion hoccasion)
  rw [if_pos hoccasion] at hrest
  obtain ⟨paid, next, hduring, hgone, -⟩ := follow_split hrest
  obtain ⟨rfl, -⟩ := eq_shown hgone hgoes
  exact texts_of_shown hduring hquiet

/-- What is written once the console has gone on is written for an occasion. -/
theorem silent {state : PromptState} {bytes : List UInt8}
    (h : state.follow (before ++ event :: (during ++ .wrote bytes :: after)) = some last)
    (hgoes : event.goesOn) : ∃ occasion ∈ event :: during, occasion.isOccasion := by
  by_cases hquiet : ∃ occasion ∈ event :: during, occasion.isOccasion
  · exact hquiet
  · have hnone : ∀ other ∈ event :: during, other.isOccasion = false := by
      intro other hmem
      exact Bool.eq_false_iff.mpr fun hoccasion => hquiet ⟨other, hmem, hoccasion⟩
    obtain ⟨mid, next, -, hevent, hrest⟩ := follow_split h
    obtain ⟨-, rfl⟩ := eq_shown hevent hgoes
    rw [hnone event List.mem_cons_self, if_neg (by simp)] at hrest
    obtain ⟨still, next, hduring, hwrote, -⟩ := follow_split hrest
    obtain ⟨rfl, -⟩ := texts_of_quiet hduring fun other hmem =>
      hnone other (List.mem_cons_of_mem _ hmem)
    exact nomatch hwrote

end PromptState

end DeviceConsole
