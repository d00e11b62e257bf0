import DeviceConsole.Proofs.Line.Stream
import DeviceConsole.Session

/-!
# Reading a stream in pieces

The operator's input reads its stream in pieces, and lines are taken from it in between.  How
the stream is cut into pieces, how often a read fails for a moment, and when lines are taken
makes no difference: what is taken in the end are the lines of the stream.

Main results:

- Theorem {lit}`OperatorInput.run_ofSession`: a session reads its input in the same way.
- Theorem {lit}`Reading.run`: reads and takes keep what was taken in line with what was read.
- Theorem {lit}`OperatorInput.closed_run`: one read more than there are pieces ends the stream.
- Theorem {lit}`assemblesStream`: the lines of a stream do not depend on its pieces.
-/

namespace DeviceConsole

/-! ## Reads and takes -/

namespace Trace

/-- What the reads of the operator's stream have given. -/
def reads (trace : Trace) : List (Except IoFailure (List UInt8)) :=
  trace.filterMap fun
    | .read answer => some answer
    | _ => none

@[simp]
theorem reads_append (left right : Trace) : (left ++ right).reads = left.reads ++ right.reads := by
  simp [reads]

end Trace

/-- An answer of a stream that has not ended: some bytes, or a failure for a moment. -/
def StreamAnswer : Type :=
  { answer : Except IoFailure (List UInt8) // endsStream answer = false }

/-- The bytes of the answers of a stream. -/
def streamBytes (answers : List StreamAnswer) : List UInt8 :=
  answers.flatMap fun answer => readBytes answer.val

/-- The operator's input with the stream that it reads: the answers that are still to come, and
the end behind them. -/
structure OperatorInput where
  assembler : LineAssembler
  answers : List StreamAnswer

/-- What is done with the operator's input. -/
inductive InputCall where
  /-- The stream is read once. -/
  | fill
  /-- The next complete line is taken. -/
  | takeLine
deriving DecidableEq, Repr

namespace OperatorInput

/-- The input of a stream before the first read. -/
def start (answers : List StreamAnswer) : OperatorInput :=
  ⟨.empty, answers⟩

/-- Reads the stream once.  A closed input is not read. -/
def fill (input : OperatorInput) : OperatorInput :=
  if input.assembler.closed then input
  else
    match input.answers with
    | [] => ⟨(input.assembler.fill (.ok [])).2, []⟩
    | answer :: rest => ⟨(input.assembler.fill answer.val).2, rest⟩

/-- What is left when the next complete line was taken. -/
def takeLine (input : OperatorInput) : Option OperatorLine × OperatorInput :=
  let (line, assembler) := input.assembler.takeLine
  (line, { input with assembler })

/-- Does one thing after the other; the value is the lines that were taken. -/
def run (input : OperatorInput) : List InputCall → List OperatorLine × OperatorInput
  | [] => ([], input)
  | .fill :: calls => input.fill.run calls
  | .takeLine :: calls =>
      let (line, next) := input.takeLine
      let (lines, last) := next.run calls
      (line.toList ++ lines, last)

theorem run_append (input : OperatorInput) (first second : List InputCall) :
    input.run (first ++ second) =
      ((input.run first).1 ++ ((input.run first).2.run second).1,
        ((input.run first).2.run second).2) := by
  induction first generalizing input with
  | nil => rfl
  | cons call first ih =>
      cases call with
      | fill => exact ih input.fill
      | takeLine => simp [run, ih, List.append_assoc]

end OperatorInput

/-! ## The input of a session -/

section

variable {η ω : Type}

/-- The host keeps the answers that the operator's stream has still to give. -/
structure Host.Keeps (host : Host ω) (answers : ω → List StreamAnswer) : Prop where
  interrupt : ∀ state, answers (host.interrupt state).2 = answers state
  read_nil : ∀ state, answers state = [] →
    (host.read state).1 = .ok [] ∧ answers (host.read state).2 = []
  read_cons : ∀ state answer rest, answers state = answer :: rest →
    (host.read state).1 = answer.val ∧ answers (host.read state).2 = rest

/-- A host that gives the answers of a list, one after the other. -/
def Host.replaying (host : Host ω) : Host (ω × List StreamAnswer) where
  interrupt state := ((host.interrupt state.1).1, (host.interrupt state.1).2, state.2)
  wait state timeout := ((host.wait state.1 timeout).1, (host.wait state.1 timeout).2, state.2)
  receive state := ((host.receive state.1).1, (host.receive state.1).2, state.2)
  send state peer bytes :=
    ((host.send state.1 peer bytes).1, (host.send state.1 peer bytes).2, state.2)
  read
    | (state, []) => (.ok [], state, [])
    | (state, answer :: rest) => (answer.val, state, rest)

theorem Host.keeps_replaying (host : Host ω) : host.replaying.Keeps Prod.snd where
  interrupt _ := rfl
  read_nil := by
    rintro ⟨state, answers⟩ rfl
    exact ⟨rfl, rfl⟩
  read_cons := by
    rintro ⟨state, answers⟩ answer rest rfl
    exact ⟨rfl, rfl⟩

/-- The operator's input in a session whose host keeps the answers. -/
def OperatorInput.ofSession (answers : ω → List StreamAnswer) (session : Session η ω) :
    OperatorInput :=
  ⟨session.input, answers session.host⟩

/-- A session reads its input as the input reads its stream. -/
theorem OperatorInput.fill_ofSession {S : Setting η ω} {answers : ω → List StreamAnswer}
    (hkeeps : S.host.Keeps answers) (session : Session η ω) :
    ofSession answers (Session.fillInput S session).session = (ofSession answers session).fill := by
  have hattend : (Session.attend S session).session.input = session.input ∧
      answers (Session.attend S session).session.host = answers session.host := by
    have hanswers := hkeeps.interrupt session.host
    cases harrived : (S.host.interrupt session.host).1 <;>
      simp [Session.attend, Session.raise, harrived, hanswers]
  cases hclosed : session.input.closed with
  | true => simp [Session.fillInput, ofSession, fill, hclosed]
  | false =>
      obtain ⟨hinput, hanswers⟩ := hattend
      have hread : ofSession answers (Session.fillInput S session).session =
          ⟨(session.input.fill (S.host.read (Session.attend S session).session.host).1).2,
            answers (S.host.read (Session.attend S session).session.host).2⟩ := by
        simp [Session.fillInput, ofSession, hclosed, hinput]
      rw [hread, fill, ofSession]
      cases hnext : answers session.host with
      | nil =>
          obtain ⟨hvalue, hrest⟩ := hkeeps.read_nil _ (hanswers.trans hnext)
          simp [hclosed, hvalue, hrest]
      | cons answer rest =>
          obtain ⟨hvalue, hrest⟩ := hkeeps.read_cons _ answer rest (hanswers.trans hnext)
          simp [hclosed, hvalue, hrest]

/-- A session takes a line as the input does. -/
theorem OperatorInput.takeLine_ofSession (answers : ω → List StreamAnswer)
    (session : Session η ω) :
    (ofSession answers session).takeLine =
      ((Session.takeLine session).value, ofSession answers (Session.takeLine session).session) := by
  unfold takeLine ofSession
  cases hlines : session.input.lines <;>
    simp [Session.takeLine, LineAssembler.takeLine, hlines]

/-- Does one thing after the other in a session; the value is the lines that were taken. -/
def Session.runInput (S : Setting η ω) : List InputCall → Activity (Session η ω) (List OperatorLine)
  | [] => return []
  | .fill :: calls => do
      discard (fillInput S)
      runInput S calls
  | .takeLine :: calls => do
      let line ← takeLine
      let lines ← runInput S calls
      return line.toList ++ lines

/-- A session reads its stream, and takes the lines of it, as the input does. -/
theorem OperatorInput.run_ofSession {S : Setting η ω} {answers : ω → List StreamAnswer}
    (hkeeps : S.host.Keeps answers) (calls : List InputCall) (session : Session η ω) :
    (ofSession answers session).run calls =
      ((Session.runInput S calls session).value,
        ofSession answers (Session.runInput S calls session).session) := by
  induction calls generalizing session with
  | nil => rfl
  | cons call calls ih =>
      cases call with
      | fill =>
          rw [run, ← fill_ofSession hkeeps, ih]
          rfl
      | takeLine =>
          rw [run, takeLine_ofSession]
          dsimp only
          rw [ih]
          rfl

end

/-! ## In line with the stream -/

/-- The input in the middle of a stream: what was read so far and what is still to come make up
the stream, and the lines taken and waiting are those of what was read. -/
structure Reading (stream : List UInt8) (taken : List OperatorLine) (input : OperatorInput) :
    Prop where
  assembled : ∃ bytes, Assembled bytes taken input.assembler ∧
    bytes ++ streamBytes input.answers = stream
  answers_eq : input.assembler.closed → input.answers = []

namespace Reading

variable {stream : List UInt8} {taken : List OperatorLine} {input : OperatorInput}

theorem start (answers : List StreamAnswer) :
    Reading (streamBytes answers) [] (.start answers) where
  assembled := ⟨[], Assembled.empty, rfl⟩
  answers_eq := by simp [OperatorInput.start, LineAssembler.empty]

/-- A read moves the next piece from what is to come to what was read, or ends the stream. -/
theorem fill (h : Reading stream taken input) : Reading stream taken input.fill := by
  unfold OperatorInput.fill
  split
  · exact h
  · rename_i hopen
    obtain ⟨bytes, hassembled, hstream⟩ := h.assembled
    have hopen : input.assembler.closed = false := by simpa using hopen
    split
    · rename_i hnone
      obtain ⟨hnext, hclosed⟩ := hassembled.fill hopen (.ok [])
      exact ⟨⟨_, hnext, by simpa [hnone, readBytes, streamBytes] using hstream⟩, fun _ => rfl⟩
    · rename_i answer rest hanswers
      obtain ⟨hnext, hclosed⟩ := hassembled.fill hopen answer.val
      refine ⟨⟨_, hnext, ?_⟩, ?_⟩
      · simpa [hanswers, streamBytes] using hstream
      · intro hend
        rw [hclosed, answer.property] at hend
        simp at hend

/-- A line that is taken is the next one. -/
theorem takeLine (h : Reading stream taken input) :
    Reading stream (taken ++ input.takeLine.1.toList) input.takeLine.2 := by
  obtain ⟨bytes, hassembled, hstream⟩ := h.assembled
  unfold OperatorInput.takeLine LineAssembler.takeLine
  cases hlines : input.assembler.lines with
  | nil => simpa using h
  | cons line rest => exact ⟨⟨bytes, hassembled.takeLine hlines, hstream⟩, h.answers_eq⟩

/-- Reads and takes keep what was taken in line with what was read. -/
theorem run (h : Reading stream taken input) (calls : List InputCall) :
    Reading stream (taken ++ (input.run calls).1) (input.run calls).2 := by
  induction calls generalizing taken input with
  | nil => simpa [OperatorInput.run] using h
  | cons call calls ih =>
      cases call with
      | fill => exact ih h.fill
      | takeLine =>
          have hrest := ih h.takeLine
          rwa [List.append_assoc] at hrest

/-- The lines that were taken are the first ones of the stream. -/
theorem taken_isPrefix (h : Reading stream taken input) :
    taken <+: LineStream.lines stream true := by
  obtain ⟨bytes, hassembled, rfl⟩ := h.assembled
  have htaken := hassembled.taken_isPrefix
  cases hclosed : input.assembler.closed with
  | false =>
      rw [hclosed] at htaken
      exact htaken.trans (LineStream.lines_false_isPrefix bytes _)
  | true =>
      rw [hclosed] at htaken
      simpa [h.answers_eq hclosed, streamBytes] using htaken

/-- When the input is used up, every line of the stream was taken. -/
theorem taken_eq (h : Reading stream taken input) (hexhausted : input.assembler.isExhausted) :
    taken = LineStream.lines stream true := by
  obtain ⟨bytes, hassembled, rfl⟩ := h.assembled
  have hclosed : input.assembler.closed := by
    simp only [LineAssembler.isExhausted, Bool.and_eq_true] at hexhausted
    exact hexhausted.1
  rw [hassembled.taken_eq_of_isExhausted hexhausted, h.answers_eq hclosed]
  simp [streamBytes]

/-- No more lines wait than the stream has. -/
theorem length_lines_le (h : Reading stream taken input) (hclosed : input.assembler.closed) :
    input.assembler.lines.length ≤ (LineStream.lines stream true).length := by
  obtain ⟨bytes, hassembled, rfl⟩ := h.assembled
  have hlines := hassembled.lines_eq
  rw [hclosed] at hlines
  rw [h.answers_eq hclosed, streamBytes, List.flatMap_nil, List.append_nil, ← hlines,
    List.length_append]
  omega

end Reading

/-! ## The end of the stream -/

namespace OperatorInput

variable {input : OperatorInput}

/-- A closed input stays closed. -/
theorem closed_run_of_closed (hclosed : input.assembler.closed) (calls : List InputCall) :
    (input.run calls).2.assembler.closed := by
  induction calls generalizing input with
  | nil => exact hclosed
  | cons call calls ih =>
      cases call with
      | fill =>
          refine ih ?_
          rwa [fill, if_pos hclosed]
      | takeLine =>
          refine ih ?_
          cases hlines : input.assembler.lines with
          | nil => simpa [takeLine, LineAssembler.takeLine, hlines] using hclosed
          | cons line rest => simpa [takeLine, LineAssembler.takeLine, hlines] using hclosed

theorem takeLine_answers : input.takeLine.2.answers = input.answers :=
  rfl

/-- One read more than there are pieces ends the stream. -/
theorem closed_run {calls : List InputCall} (hmore : input.answers.length < calls.count .fill) :
    (input.run calls).2.assembler.closed := by
  induction calls generalizing input with
  | nil => simp at hmore
  | cons call calls ih =>
      cases call with
      | takeLine => exact ih (by simpa [takeLine_answers] using hmore)
      | fill =>
          by_cases hclosed : input.assembler.closed
          · exact closed_run_of_closed hclosed _
          · cases hanswers : input.answers with
            | nil =>
                refine closed_run_of_closed ?_ calls
                simp [fill, hclosed, hanswers, LineAssembler.fill]
            | cons answer rest =>
                refine ih ?_
                simp only [hanswers, List.length_cons, List.count_cons_self] at hmore
                simpa [fill, hclosed, hanswers] using hmore

/-- Lines that are taken one after the other are the first ones that wait. -/
theorem run_takeLines (input : OperatorInput) (n : Nat) :
    (input.run (List.replicate n .takeLine)).2 =
      { input with
        assembler := { input.assembler with lines := input.assembler.lines.drop n } } := by
  induction n generalizing input with
  | zero => simp [run]
  | succ n ih =>
      rw [List.replicate_succ, run, ih, takeLine, LineAssembler.takeLine]
      cases hlines : input.assembler.lines <;> simp [hlines]

end OperatorInput

/-- One read more than there are pieces, and as many lines taken behind it as the stream has,
use up the input. -/
theorem Reading.isExhausted_run {stream : List UInt8} {taken : List OperatorLine}
    {input : OperatorInput} (h : Reading stream taken input) {calls : List InputCall} {n : Nat}
    (hmore : input.answers.length < calls.count .fill)
    (hn : (LineStream.lines stream true).length ≤ n) :
    (input.run (calls ++ List.replicate n .takeLine)).2.assembler.isExhausted := by
  have hclosed : (input.run calls).2.assembler.closed := OperatorInput.closed_run hmore
  have hlines := (h.run calls).length_lines_le hclosed
  rw [OperatorInput.run_append, OperatorInput.run_takeLines]
  simp [LineAssembler.isExhausted, hclosed]
  omega

/-! ## One stream, any pieces -/

/-- How the lines of a stream are assembled that answers as given. -/
structure AssemblesStream (answers : List StreamAnswer) : Prop where
  /-- Whatever was done so far, the lines taken are the first ones of the stream. -/
  in_order : ∀ calls : List InputCall,
    ((OperatorInput.start answers).run calls).1 <+: LineStream.lines (streamBytes answers) true
  /-- When the input is used up, the lines taken are all those of the stream. -/
  complete : ∀ calls : List InputCall,
    ((OperatorInput.start answers).run calls).2.assembler.isExhausted →
      ((OperatorInput.start answers).run calls).1 = LineStream.lines (streamBytes answers) true
  /-- The input is used up after one read more than there are pieces, in whatever order with the
  lines taken, and enough lines taken after that. -/
  ends : ∀ (calls : List InputCall) (n : Nat), answers.length < calls.count .fill →
    (LineStream.lines (streamBytes answers) true).length ≤ n →
      ((OperatorInput.start answers).run
        (calls ++ List.replicate n .takeLine)).2.assembler.isExhausted
  /-- The same stream in other pieces gives the same lines. -/
  alike : ∀ (others : List StreamAnswer), streamBytes others = streamBytes answers →
    ∀ calls otherCalls : List InputCall,
      ((OperatorInput.start answers).run calls).2.assembler.isExhausted →
      ((OperatorInput.start others).run otherCalls).2.assembler.isExhausted →
        ((OperatorInput.start others).run otherCalls).1 =
          ((OperatorInput.start answers).run calls).1
  /-- The lines are those that a session takes whose host gives these answers. -/
  in_session : ∀ {η ω : Type} (S : Setting η ω) (kept : ω → List StreamAnswer),
    S.host.Keeps kept → ∀ session : Session η ω, session.input = .empty →
      kept session.host = answers → ∀ calls : List InputCall,
        (Session.runInput S calls session).value = ((OperatorInput.start answers).run calls).1
  /-- There is one line for each line feed, and one for an unfinished piece at the end. -/
  length_eq : (LineStream.lines (streamBytes answers) true).length =
    (streamBytes answers).count lineFeed +
      if LineStream.unfinished (streamBytes answers) = [] then 0 else 1
  /-- A line that is too long leaves its mark between the lines of what is in front of it and of
  what is behind it. -/
  overlong : ∀ front piece back : List UInt8,
    streamBytes answers = front ++ piece ++ lineFeed :: back →
    LineStream.unfinished front = [] → lineFeed ∉ piece → maxLineLength < piece.length →
      LineStream.lines (streamBytes answers) true =
        LineStream.lines front true ++ .overlong :: LineStream.lines back true

/-- The lines of a stream do not depend on the pieces in which it is read, nor on when the lines
are taken. -/
theorem assemblesStream (answers : List StreamAnswer) : AssemblesStream answers := by
  have hreading : ∀ (given : List StreamAnswer) (calls : List InputCall),
      Reading (streamBytes given) ((OperatorInput.start given).run calls).1
        ((OperatorInput.start given).run calls).2 :=
    fun given calls => (Reading.start given).run calls
  have hcomplete : ∀ calls : List InputCall,
      ((OperatorInput.start answers).run calls).2.assembler.isExhausted →
      ((OperatorInput.start answers).run calls).1 = LineStream.lines (streamBytes answers) true :=
    fun calls hexhausted => (hreading answers calls).taken_eq hexhausted
  constructor
  · exact fun calls => (hreading answers calls).taken_isPrefix
  · exact hcomplete
  · exact fun calls n hmore hn => (Reading.start answers).isExhausted_run hmore hn
  · intro others hsame calls otherCalls hexhausted hother
    rw [(hreading others otherCalls).taken_eq hother, hcomplete calls hexhausted, hsame]
  · intro η ω S kept hkeeps session hinput hkept calls
    have hstart : OperatorInput.ofSession kept session = .start answers := by
      rw [OperatorInput.ofSession, hinput, hkept, OperatorInput.start]
    rw [← hstart, OperatorInput.run_ofSession hkeeps]
  · exact LineStream.length_lines_true _
  · intro front piece back hstream hfront hpiece hlong
    rw [hstream, LineStream.lines_around hfront hpiece, OperatorLine.ofPiece, if_pos hlong]

end DeviceConsole
