import DeviceConsole.Proofs.Line.Reads
import DeviceConsole.Proofs.Text.Utf8

/-!
# What the operator's input keeps

However the operator's stream behaves and in whatever order it is read and lines are taken, the
input keeps little: the line that has no end yet never holds more bytes than a line may have, and
none at all once it is too long.  The first end of the stream, or the first failure that is not
passing, closes the input for good: from then on the stream is left alone, and the input only
gives away the lines that wait.

Main results:

- Theorem {lit}`splitLines_isBounded`: whatever bytes are taken in, the unfinished line is bounded.
- Theorem {lit}`InputHistory.call`: a read or a take keeps the input in line with what was read.
- Theorem {lit}`Session.callInputs_of_closed`: a closed input only gives away lines.
- Theorem {lit}`Session.input_staysBounded`: the state of the input after any reads and takes.
-/

namespace DeviceConsole

/-! ## Lines without their ends -/

/-- The text of a line has no line feed, and no carriage return at its end. -/
def OperatorLine.IsClean (line : OperatorLine) : Prop :=
  ∀ text, line = .command text → '\n' ∉ text.toList ∧ text.toList.getLast? ≠ some '\r'

theorem OperatorLine.isClean_overlong : OperatorLine.overlong.IsClean :=
  nofun

namespace LineTail

/-- The unfinished line keeps no more bytes than a line may have, none of them a line feed, and
none at all once it is too long. -/
structure IsBounded (tail : LineTail) : Prop where
  length_le : tail.bytes.length ≤ maxLineLength
  lineFeed_notMem : lineFeed ∉ tail.bytes
  bytes_eq_nil : tail.overlong → tail.bytes = []

variable {tail : LineTail}

theorem isBounded_empty : empty.IsBounded where
  length_le := Nat.zero_le _
  lineFeed_notMem := List.not_mem_nil
  bytes_eq_nil _ := rfl

/-- Bytes without a line feed leave the unfinished line bounded, however many they are. -/
theorem IsBounded.extend (h : tail.IsBounded) {bytes : List UInt8} (hbytes : lineFeed ∉ bytes) :
    (tail.extend bytes).IsBounded := by
  unfold LineTail.extend
  split
  · exact h
  · split
    · exact ⟨Nat.zero_le _, List.not_mem_nil, fun _ => rfl⟩
    · rename_i hshort
      refine ⟨?_, ?_, by simp⟩
      · simpa using hshort
      · simp [h.lineFeed_notMem, hbytes]

/-- Without the carriage returns at its end a text does not end in one. -/
theorem getLast?_dropReturns (text : List Char) : (dropReturns text).getLast? ≠ some '\r' := by
  intro hlast
  rw [dropReturns, List.getLast?_reverse] at hlast
  have hhead := List.head?_dropWhile_not (· == '\r') text.reverse
  rw [hlast] at hhead
  simp at hhead

/-- An unfinished line that ends is a line without its end. -/
theorem IsBounded.finish_isClean (h : tail.IsBounded) : tail.finish.IsClean := by
  unfold finish
  split
  · exact OperatorLine.isClean_overlong
  · intro text htext
    obtain rfl := OperatorLine.command.inj htext
    rw [String.toList_ofList]
    refine ⟨fun hmem => ?_, getLast?_dropReturns _⟩
    have hdecoded : '\n' ∈ Utf8.decode tail.bytes := by
      rw [dropReturns, List.mem_reverse] at hmem
      exact List.mem_reverse.mp ((List.dropWhile_sublist _).mem hmem)
    exact h.lineFeed_notMem (Utf8.mem_of_mem_decode (by decide) (by decide) hdecoded)

end LineTail

/-- Whatever bytes are taken in, the lines that they complete are without their ends, and the line
that is left unfinished is bounded. -/
theorem splitLines_isBounded {tail : LineTail} (h : tail.IsBounded) (bytes : List UInt8) :
    (∀ line ∈ (splitLines tail bytes).1, line.IsClean) ∧ (splitLines tail bytes).2.IsBounded := by
  induction bytes using LineStream.induction generalizing tail with
  | last piece hpiece =>
      rw [splitLines_of_no_lineFeed _ hpiece]
      exact ⟨nofun, h.extend hpiece⟩
  | feed piece rest hpiece ih =>
      obtain ⟨hlines, hlast⟩ := ih LineTail.isBounded_empty
      rw [splitLines_append_cons _ hpiece]
      exact ⟨List.forall_mem_cons.mpr ⟨(h.extend hpiece).finish_isClean, hlines⟩, hlast⟩

/-! ## The assembler -/

namespace LineAssembler

/-- What holds of the input at every moment. -/
structure IsSound (input : LineAssembler) : Prop where
  tail : input.tail.IsBounded
  tail_of_closed : input.closed → input.tail = .empty
  lines : ∀ line ∈ input.lines, line.IsClean

variable {input : LineAssembler}

theorem isSound_empty : empty.IsSound where
  tail := LineTail.isBounded_empty
  tail_of_closed _ := rfl
  lines := nofun

theorem IsSound.accept (h : input.IsSound) (hopen : input.closed = false) (bytes : List UInt8) :
    (input.accept bytes).IsSound := by
  obtain ⟨hlines, hlast⟩ := splitLines_isBounded h.tail bytes
  refine ⟨hlast, fun hclosed => ?_, ?_⟩
  · rw [show (input.accept bytes).closed = input.closed from rfl, hopen] at hclosed
    simp at hclosed
  · exact List.forall_mem_append.mpr ⟨h.lines, hlines⟩

theorem IsSound.close (h : input.IsSound) : input.close.IsSound := by
  unfold LineAssembler.close
  split
  · exact h
  · refine ⟨LineTail.isBounded_empty, fun _ => rfl, ?_⟩
    dsimp only
    split
    · exact List.forall_mem_append.mpr ⟨h.lines, by simpa using h.tail.finish_isClean⟩
    · exact h.lines

theorem IsSound.fill (h : input.IsSound) (answer : Except IoFailure (List UInt8)) :
    (input.fill answer).2.IsSound := by
  cases hclosed : input.closed with
  | true => rwa [fill_of_closed hclosed]
  | false =>
      simp only [LineAssembler.fill, hclosed, Bool.false_eq_true, if_false]
      split
      · exact h.close
      · exact h.accept hclosed _
      · split
        · exact h
        · exact h.close

theorem IsSound.takeLine (h : input.IsSound) :
    input.takeLine.2.IsSound ∧ ∀ line ∈ input.takeLine.1, line.IsClean := by
  unfold LineAssembler.takeLine
  split
  · exact ⟨h, nofun⟩
  · rename_i line lines hlines
    have hclean := h.lines
    rw [hlines, List.forall_mem_cons] at hclean
    exact ⟨⟨h.tail, h.tail_of_closed, hclean.2⟩, by simpa using hclean.1⟩

end LineAssembler

/-! ## Reads of a stream -/

/-- The failure of a read that is not passing. -/
def lastingFailure? : Except IoFailure (List UInt8) → Option IoFailure
  | .error failure => if failure.isTransient then none else some failure
  | .ok _ => none

/-- A read of an open input tells a failure exactly when it is not passing. -/
theorem LineAssembler.fill_fst {input : LineAssembler} (hopen : input.closed = false)
    (answer : Except IoFailure (List UInt8)) :
    (input.fill answer).1 = match lastingFailure? answer with
      | some failure => .error failure
      | none => .ok () := by
  rcases answer with failure | bytes
  · cases htransient : failure.isTransient <;> simp [fill, hopen, lastingFailure?, htransient]
  · cases bytes <;> simp [fill, hopen, lastingFailure?]

namespace Session

variable {η ω : Type}

/-- A read leaves a session with a closed input alone. -/
theorem fillInput_of_closed (S : Setting η ω) {session : Session η ω}
    (hclosed : session.input.closed) : fillInput S session = ⟨.ok (), [], session⟩ := by
  simp [fillInput, Activity.get_bind_run, hclosed]

/-- A read of an open input takes in what the stream answers, and nothing else. -/
theorem fillInput_of_open (S : Setting η ω) {session : Session η ω}
    (hopen : session.input.closed = false) :
    ∃ answer, (fillInput S session).events.reads = [answer] ∧
      (fillInput S session).value = (session.input.fill answer).1 ∧
      (fillInput S session).session.input = (session.input.fill answer).2 := by
  refine ⟨(S.host.read (attend S session).session.host).1, ?_⟩
  cases harrived : (S.host.interrupt session.host).1 <;>
    simp [fillInput, Activity.get_bind_run, hopen, attend, raise, harrived, Trace.reads]

/-- A take gives the line that waits longest, and does not read. -/
theorem takeLine_run (session : Session η ω) :
    (takeLine session).value = session.input.takeLine.1 ∧ (takeLine session).events.reads = [] ∧
      (takeLine session).session.input = session.input.takeLine.2 := by
  cases hlines : session.input.lines <;>
    simp [takeLine, LineAssembler.takeLine, hlines, Trace.reads]

end Session

/-! ## Reads and takes with their answers -/

/-- What a read of the operator's input, or a take from it, has given. -/
inductive InputAnswer where
  /-- A read succeeded or failed. -/
  | filled (result : Except IoFailure Unit)
  /-- A take got a line, or none waited. -/
  | taken (line : Option OperatorLine)

namespace InputAnswer

/-- The failures that reads have told. -/
def failures (answers : List InputAnswer) : List IoFailure :=
  answers.filterMap fun
    | .filled (.error failure) => some failure
    | _ => none

/-- The lines that takes have got. -/
def lines (answers : List InputAnswer) : List OperatorLine :=
  answers.filterMap fun
    | .taken line => line
    | _ => none

@[simp]
theorem failures_append (front back : List InputAnswer) :
    failures (front ++ back) = failures front ++ failures back := by
  simp [failures]

@[simp]
theorem lines_append (front back : List InputAnswer) :
    lines (front ++ back) = lines front ++ lines back := by
  simp [lines]

end InputAnswer

namespace Session

variable {η ω : Type}

/-- Reads the operator's stream, or takes a line, and says what that has given. -/
def callInput (S : Setting η ω) : InputCall → Activity (Session η ω) InputAnswer
  | .fill => .filled <$> fillInput S
  | .takeLine => .taken <$> takeLine

/-- Does one thing after the other. -/
def callInputs (S : Setting η ω) (calls : List InputCall) :
    Activity (Session η ω) (List InputAnswer) :=
  calls.mapM (callInput S)

theorem callInputs_nil (S : Setting η ω) (session : Session η ω) :
    callInputs S [] session = ⟨[], [], session⟩ :=
  rfl

theorem callInputs_cons (S : Setting η ω) (call : InputCall) (calls : List InputCall)
    (session : Session η ω) :
    callInputs S (call :: calls) session =
      ⟨(callInput S call session).value ::
          (callInputs S calls (callInput S call session).session).value,
        (callInput S call session).events ++
          (callInputs S calls (callInput S call session).session).events,
        (callInputs S calls (callInput S call session).session).session⟩ := by
  simp [callInputs, List.mapM_cons, Activity.bind_run]

end Session

/-! ## From the beginning -/

theorem lastingFailure?_eq_none {answer : Except IoFailure (List UInt8)}
    (hgoes : endsStream answer = false) : lastingFailure? answer = none := by
  rcases answer with failure | bytes
  · have htransient : failure.isTransient = true := by simpa [endsStream] using hgoes
    simp [lastingFailure?, htransient]
  · rfl

/-- The input after some answers, and the reads of the stream that they took.  All reads but the
last one have left the stream open.  The last one decides whether the input is closed, and whether
a failure was told. -/
structure InputHistory (answers : List InputAnswer)
    (reads : List (Except IoFailure (List UInt8))) (input : LineAssembler) : Prop where
  sound : input.IsSound
  goes_on : ∀ answer ∈ reads.dropLast, endsStream answer = false
  closed_eq : input.closed = reads.getLast?.any endsStream
  failures_eq : InputAnswer.failures answers = (reads.getLast?.bind lastingFailure?).toList
  lines_clean : ∀ line ∈ InputAnswer.lines answers, line.IsClean

namespace InputHistory

variable {η ω : Type} {S : Setting η ω} {session : Session η ω} {answers : List InputAnswer}
  {reads : List (Except IoFailure (List UInt8))} {input : LineAssembler}

theorem start : InputHistory [] [] .empty where
  sound := LineAssembler.isSound_empty
  goes_on := nofun
  closed_eq := rfl
  failures_eq := rfl
  lines_clean := nofun

theorem mem_reads_cases {answer : Except IoFailure (List UInt8)} (hmem : answer ∈ reads) :
    answer ∈ reads.dropLast ∨ reads.getLast? = some answer := by
  have hne := List.ne_nil_of_mem hmem
  rw [← List.dropLast_concat_getLast hne, List.mem_append, List.mem_singleton] at hmem
  rcases hmem with hfront | rfl
  · exact Or.inl hfront
  · exact Or.inr (List.getLast?_eq_some_getLast hne)

/-- The input is closed exactly when a read was the end of the stream. -/
theorem closed_iff (h : InputHistory answers reads input) :
    input.closed ↔ ∃ answer ∈ reads, endsStream answer = true := by
  rw [h.closed_eq]
  constructor
  · intro hlast
    obtain ⟨answer, hanswer, hends⟩ := (Option.any_eq_true _ _).mp hlast
    exact ⟨answer, List.mem_of_getLast? hanswer, hends⟩
  · rintro ⟨answer, hmem, hends⟩
    rcases mem_reads_cases hmem with hfront | hlast
    · rw [h.goes_on answer hfront] at hends
      simp at hends
    · rw [hlast]
      exact hends

/-- While the input is open, no read was the end of the stream and no failure was told. -/
theorem of_open (h : InputHistory answers reads input) (hopen : input.closed = false) :
    (∀ answer ∈ reads, endsStream answer = false) ∧ InputAnswer.failures answers = [] := by
  have hgoes : ∀ answer ∈ reads, endsStream answer = false := by
    intro answer hmem
    by_contra hends
    have hclosed := h.closed_iff.mpr ⟨answer, hmem, by simpa using hends⟩
    simp [hopen] at hclosed
  refine ⟨hgoes, ?_⟩
  rw [h.failures_eq]
  cases hlast : reads.getLast? with
  | none => rfl
  | some answer =>
      rw [Option.bind_some, lastingFailure?_eq_none (hgoes answer (List.mem_of_getLast? hlast))]
      rfl

/-- What takes no read and tells no failure goes on with the history. -/
theorem aside (h : InputHistory answers reads input) {answer : InputAnswer} {after : LineAssembler}
    (hsound : after.IsSound) (hclosed : after.closed = input.closed)
    (hfailures : InputAnswer.failures [answer] = [])
    (hlines : ∀ line ∈ InputAnswer.lines [answer], line.IsClean) :
    InputHistory (answers ++ [answer]) reads after where
  sound := hsound
  goes_on := h.goes_on
  closed_eq := hclosed.trans h.closed_eq
  failures_eq := by rw [InputAnswer.failures_append, hfailures, List.append_nil, h.failures_eq]
  lines_clean := by
    rw [InputAnswer.lines_append]
    exact List.forall_mem_append.mpr ⟨h.lines_clean, hlines⟩

/-- A read goes on with the history. -/
theorem fill (h : InputHistory answers reads session.input) :
    InputHistory (answers ++ [.filled (Session.fillInput S session).value])
      (reads ++ (Session.fillInput S session).events.reads)
      (Session.fillInput S session).session.input := by
  cases hclosed : session.input.closed with
  | true =>
      rw [Session.fillInput_of_closed S hclosed, show Trace.reads [] = [] from rfl, List.append_nil]
      exact h.aside h.sound rfl rfl nofun
  | false =>
      obtain ⟨answer, hreads, hvalue, hinput⟩ := Session.fillInput_of_open S hclosed
      -- No earlier read was the end, so that this one alone decides what is told and closed.
      obtain ⟨hgoes, hfailures⟩ := h.of_open hclosed
      rw [hreads, hvalue, hinput]
      constructor
      · exact h.sound.fill answer
      · rwa [List.dropLast_concat]
      · rw [List.getLast?_concat, LineAssembler.fill_closed hclosed]
        rfl
      · rw [InputAnswer.failures_append, hfailures, List.getLast?_concat, Option.bind_some,
          LineAssembler.fill_fst hclosed]
        cases lastingFailure? answer <;> rfl
      · rw [InputAnswer.lines_append]
        simpa [InputAnswer.lines] using h.lines_clean

/-- So does a take. -/
theorem takeLine (h : InputHistory answers reads session.input) :
    InputHistory (answers ++ [.taken (Session.takeLine session).value])
      (reads ++ (Session.takeLine session).events.reads)
      (Session.takeLine session).session.input := by
  obtain ⟨hvalue, hreads, hinput⟩ := Session.takeLine_run session
  obtain ⟨hsound, hclean⟩ := h.sound.takeLine
  have hkept : session.input.takeLine.2.closed = session.input.closed := by
    unfold LineAssembler.takeLine
    split <;> rfl
  rw [hvalue, hreads, hinput, List.append_nil]
  refine h.aside hsound hkept rfl ?_
  simpa [InputAnswer.lines] using hclean

/-- Whatever is done with the input, it goes on with the history. -/
theorem call (h : InputHistory answers reads session.input) (call : InputCall) :
    InputHistory (answers ++ [(Session.callInput S call session).value])
      (reads ++ (Session.callInput S call session).events.reads)
      (Session.callInput S call session).session.input := by
  cases call with
  | fill => simpa [Session.callInput] using h.fill
  | takeLine => simpa [Session.callInput] using h.takeLine

theorem calls (h : InputHistory answers reads session.input) (calls : List InputCall) :
    InputHistory (answers ++ (Session.callInputs S calls session).value)
      (reads ++ (Session.callInputs S calls session).events.reads)
      (Session.callInputs S calls session).session.input := by
  induction calls generalizing session answers reads with
  | nil => simpa [Session.callInputs_nil, Trace.reads] using h
  | cons call calls ih =>
      have hrest := ih (h.call (S := S) call)
      rw [List.append_assoc, List.append_assoc] at hrest
      rw [Session.callInputs_cons, Trace.reads_append]
      exact hrest

end InputHistory

/-! ## From the end of the stream on -/

/-- What was done since the input was closed: the stream was not read, nothing failed and no line
has come in, so that the lines taken and those that wait are the ones that waited. -/
structure GivesAway (before : LineAssembler) (answers : List InputAnswer) (events : Trace)
    (after : LineAssembler) : Prop where
  reads_eq : events.reads = []
  failures_eq : InputAnswer.failures answers = []
  closed : after.closed
  tail_eq : after.tail = before.tail
  lines_eq : InputAnswer.lines answers ++ after.lines = before.lines

namespace Session

variable {η ω : Type} {S : Setting η ω} {session : Session η ω}

theorem callInput_of_closed (hclosed : session.input.closed) (call : InputCall) :
    GivesAway session.input [(callInput S call session).value] (callInput S call session).events
      (callInput S call session).session.input := by
  cases call with
  | fill =>
      simp only [callInput, Activity.map_run, fillInput_of_closed S hclosed]
      exact ⟨rfl, rfl, hclosed, rfl, rfl⟩
  | takeLine =>
      obtain ⟨hvalue, hreads, hinput⟩ := takeLine_run session
      simp only [callInput, Activity.map_run, hvalue, hinput]
      unfold LineAssembler.takeLine
      split
      · rename_i hlines
        exact ⟨hreads, rfl, hclosed, rfl, rfl⟩
      · rename_i line lines hlines
        exact ⟨hreads, rfl, hclosed, rfl, hlines.symm⟩

/-- A closed input only gives away the lines that wait. -/
theorem callInputs_of_closed (hclosed : session.input.closed) (calls : List InputCall) :
    GivesAway session.input (callInputs S calls session).value (callInputs S calls session).events
      (callInputs S calls session).session.input := by
  induction calls generalizing session with
  | nil => exact ⟨rfl, rfl, hclosed, rfl, rfl⟩
  | cons call calls ih =>
      have hfirst := callInput_of_closed (S := S) hclosed call
      have hrest := ih hfirst.closed
      rw [callInputs_cons]
      constructor
      · rw [Trace.reads_append, hfirst.reads_eq, hrest.reads_eq]
        rfl
      · rw [← List.singleton_append, InputAnswer.failures_append, hfirst.failures_eq,
          hrest.failures_eq]
        rfl
      · exact hrest.closed
      · exact hrest.tail_eq.trans hfirst.tail_eq
      · rw [← List.singleton_append, InputAnswer.lines_append, List.append_assoc, hrest.lines_eq,
          hfirst.lines_eq]

end Session

/-! ## The input at any moment -/

/-- How the operator's input stands after the stream was read and lines were taken. -/
structure InputStands {η ω : Type} (S : Setting η ω)
    (ran : Ran (Session η ω) (List InputAnswer)) : Prop where
  /-- The unfinished line has at most so many bytes as a line may have, and no line feed. -/
  length_le : ran.session.input.tail.bytes.length ≤ maxLineLength
  lineFeed_notMem : lineFeed ∉ ran.session.input.tail.bytes
  /-- Once it is too long it has none. -/
  bytes_of_overlong : ran.session.input.tail.overlong → ran.session.input.tail.bytes = []
  /-- The input is closed exactly when a read was the end of the stream, or failed for good. -/
  closed_iff : ran.session.input.closed ↔ ∃ answer ∈ ran.events.reads, endsStream answer = true
  /-- That was the last read. -/
  reads_to_end : ∀ answer ∈ ran.events.reads.dropLast, endsStream answer = false
  /-- If it failed for good, its failure was told, once, and no other one ever was. -/
  failures_eq : InputAnswer.failures ran.value =
    (ran.events.reads.getLast?.bind lastingFailure?).toList
  /-- A closed input has no unfinished line. -/
  tail_of_closed : ran.session.input.closed →
    ran.session.input.tail.overlong = false ∧ ran.session.input.tail.bytes = []
  /-- Whatever is done from then on, the stream is not read, no read fails and no line comes in. -/
  closed_for_good : ran.session.input.closed → ∀ calls,
    GivesAway ran.session.input (Session.callInputs S calls ran.session).value
      (Session.callInputs S calls ran.session).events
      (Session.callInputs S calls ran.session).session.input
  /-- An interruption and a stream that was not ready after all change nothing. -/
  passing : ∀ failure, failure = .interrupted ∨ failure = .wouldBlock →
    (Session.fillInput S ran.session).events.reads = [.error failure] →
      (Session.fillInput S ran.session).value = .ok () ∧
        (Session.fillInput S ran.session).session.input = ran.session.input
  /-- An input that is used up stays so. -/
  exhausted_for_good : ran.session.input.isExhausted → ∀ calls,
    (Session.callInputs S calls ran.session).session.input.isExhausted
  /-- The text of a line that was taken has no line feed, and no carriage return at its end. -/
  lines_clean : ∀ text, .command text ∈ InputAnswer.lines ran.value →
    '\n' ∉ text.toList ∧ text.toList.getLast? ≠ some '\r'

/-- The operator's input keeps within its bounds and is closed for good, whatever its stream
answers and in whatever order it is read and lines are taken. -/
theorem Session.input_staysBounded {η ω : Type} (S : Setting η ω) (engine : η) (host : ω)
    (console : Console) (calls : List InputCall) :
    InputStands S (Session.callInputs S calls (.start engine host console)) := by
  have hstart : InputHistory [] [] (Session.start engine host console).input := .start
  have hhistory := hstart.calls (S := S) calls
  simp only [List.nil_append] at hhistory
  generalize Session.callInputs S calls (Session.start engine host console) = ran at hhistory ⊢
  constructor
  · exact hhistory.sound.tail.length_le
  · exact hhistory.sound.tail.lineFeed_notMem
  · exact hhistory.sound.tail.bytes_eq_nil
  · exact hhistory.closed_iff
  · exact hhistory.goes_on
  · exact hhistory.failures_eq
  · intro hclosed
    rw [hhistory.sound.tail_of_closed hclosed]
    exact ⟨rfl, rfl⟩
  · exact fun hclosed more => Session.callInputs_of_closed hclosed more
  · intro failure hpassing hreads
    cases hclosed : ran.session.input.closed with
    | true => rw [Session.fillInput_of_closed S hclosed]; exact ⟨rfl, rfl⟩
    | false =>
        obtain ⟨answer, hanswer, hvalue, hinput⟩ := Session.fillInput_of_open S hclosed
        obtain rfl : answer = .error failure := by simpa [hanswer] using hreads
        have htransient : failure.isTransient := failure.isTransient_iff.mpr hpassing
        rw [hvalue, hinput]
        simp [LineAssembler.fill, hclosed, htransient]
  · intro hexhausted more
    simp only [LineAssembler.isExhausted, Bool.and_eq_true, List.isEmpty_iff] at hexhausted ⊢
    have haway := Session.callInputs_of_closed (S := S) hexhausted.1 more
    have hlines := haway.lines_eq
    rw [hexhausted.2, List.append_eq_nil_iff] at hlines
    exact ⟨haway.closed, hlines.2⟩
  · exact fun text htext => hhistory.lines_clean _ htext text rfl

end DeviceConsole
