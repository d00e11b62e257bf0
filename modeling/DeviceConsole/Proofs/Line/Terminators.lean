import DeviceConsole.Proofs.Line.Reads
import DeviceConsole.Proofs.Text.Runs
import DeviceConsole.Proofs.Text.Utf8

/-!
# Line feeds behind carriage returns

A line feed ends a line, and carriage returns in front of it are no part of the line's text.  They
are only taken off when the line is complete, though, so until then they count as bytes of it.  A
line that uses up the whole limit is read when a line feed ends it, and is dropped when a carriage
return and a line feed do.

Main results:

- Theorem {lit}`PlainLine.ofPiece_append_returns`: what a line is that carriage returns stand
  behind.
- Theorem {lit}`PlainLine.run_eq`: what is taken from a stream whose lines end alike.
- Theorem {lit}`PlainLine.endsAlike`: line feeds and pairs end the same lines, except for lines of
  {lit}`maxLineLength` bytes.
-/

namespace DeviceConsole

/-- The byte that may stand between a line and its line feed. -/
def carriageReturn : UInt8 :=
  13

/-- A line of a stream, without what ends it. -/
structure PlainLine where
  bytes : List UInt8
  carriageReturn_notMem : carriageReturn ∉ bytes
  lineFeed_notMem : lineFeed ∉ bytes

namespace PlainLine

/-- The stream of some lines, each with so many carriage returns and a line feed behind it. -/
def stream (returns : Nat) (lines : List PlainLine) : List UInt8 :=
  lines.flatMap fun line => line.bytes ++ List.replicate returns carriageReturn ++ [lineFeed]

/-- What the operator's line is that so many carriage returns stand behind: its text, when it
and they are within the limit. -/
def operatorLine (returns : Nat) (line : PlainLine) : OperatorLine :=
  if line.bytes.length + returns ≤ maxLineLength then .command (Utf8.decodeText line.bytes)
  else .overlong

/-! ## One line -/

theorem decode_append_returns (bytes : List UInt8) (returns : Nat) :
    Utf8.decode (bytes ++ List.replicate returns carriageReturn) =
      Utf8.decode bytes ++ List.replicate returns '\r' := by
  induction returns generalizing bytes with
  | zero => simp
  | succ returns ih =>
      have hreturn : Utf8.decode (carriageReturn :: List.replicate returns carriageReturn) =
          '\r' :: List.replicate returns '\r' := by
        have hrest := ih []
        simp only [List.nil_append, Utf8.decode_nil] at hrest
        rw [Utf8.decode_cons, Utf8.take_ascii (by decide), hrest]
        rfl
      rw [List.replicate_succ, Utf8.decode_append_cons (by decide), hreturn, List.replicate_succ]

/-- Carriage returns are dropped from the end of a text, and nothing else is. -/
theorem rdropWhile_append_returns {text : List Char} (htext : '\r' ∉ text) (returns : Nat) :
    (text ++ List.replicate returns '\r').rdropWhile (· == '\r') = text := by
  have hback : '\r' ∉ text.reverse := fun hmem => htext (List.mem_reverse.mp hmem)
  rw [List.rdropWhile, List.reverse_append, List.reverse_replicate,
    dropWhile_replicate_append hback, List.reverse_reverse]

/-- Behind a line, carriage returns count against its limit and are no part of its text. -/
theorem ofPiece_append_returns (line : PlainLine) (returns : Nat) :
    OperatorLine.ofPiece (line.bytes ++ List.replicate returns carriageReturn) =
      line.operatorLine returns := by
  have htext : '\r' ∉ Utf8.decode line.bytes :=
    fun hmem => line.carriageReturn_notMem (Utf8.mem_of_mem_decode (by decide) (by decide) hmem)
  rw [OperatorLine.ofPiece, operatorLine, decode_append_returns, rdropWhile_append_returns htext,
    Utf8.decodeText, List.length_append, List.length_replicate]
  by_cases hlong : line.bytes.length + returns ≤ maxLineLength
  · rw [if_neg (by omega), if_pos hlong]
  · rw [if_pos (by omega), if_neg hlong]

/-- A line without carriage returns behind it and one with a single one are the same, unless the
line uses up the limit. -/
theorem operatorLine_one_eq_iff (line : PlainLine) :
    line.operatorLine 1 = line.operatorLine 0 ↔ line.bytes.length ≠ maxLineLength := by
  unfold operatorLine
  by_cases hfull : line.bytes.length = maxLineLength
  · simp [hfull]
  · have hsame : line.bytes.length + 1 ≤ maxLineLength ↔ line.bytes.length + 0 ≤ maxLineLength := by
      omega
    simp only [hsame, hfull, ne_eq, not_false_eq_true]

/-! ## A stream of lines -/

/-- The lines of the stream are those that it was made of. -/
theorem lines_stream (returns : Nat) (lines : List PlainLine) :
    LineStream.lines (stream returns lines) true = lines.map (operatorLine returns) := by
  induction lines with
  | nil => rfl
  | cons line lines ih =>
      have hpiece : lineFeed ∉ line.bytes ++ List.replicate returns carriageReturn := by
        simp [line.lineFeed_notMem, List.mem_replicate, show lineFeed ≠ carriageReturn by decide]
      have hstream : stream returns (line :: lines) =
          [] ++ (line.bytes ++ List.replicate returns carriageReturn) ++
            lineFeed :: stream returns lines := by
        simp [stream]
      rw [hstream, LineStream.lines_around (by simp) hpiece, ofPiece_append_returns, ih]
      rfl

/-- However the stream is cut and whenever lines are taken, those taken in the end are the lines
that it was made of. -/
theorem run_eq {returns : Nat} {lines : List PlainLine} {answers : List StreamAnswer}
    (hstream : streamBytes answers = stream returns lines) {calls : List InputCall}
    (hexhausted : ((OperatorInput.start answers).run calls).2.assembler.isExhausted) :
    ((OperatorInput.start answers).run calls).1 = lines.map (operatorLine returns) := by
  have htaken := ((Reading.start answers).run calls).taken_eq hexhausted
  rwa [hstream, lines_stream, List.nil_append] at htaken

/-- How streams are read that end these lines with a line feed each, behind carriage returns or
not. -/
structure EndsAlike (lines : List PlainLine) : Prop where
  /-- However the stream is cut and whenever lines are taken, those taken in the end are the lines
  that it was made of, as far as they and the carriage returns behind them are within the limit. -/
  taken_eq : ∀ (returns : Nat) (answers : List StreamAnswer) (calls : List InputCall),
    streamBytes answers = stream returns lines →
    ((OperatorInput.start answers).run calls).2.assembler.isExhausted →
      ((OperatorInput.start answers).run calls).1 = lines.map (operatorLine returns)
  /-- The end comes after one read more than there are pieces and as many lines taken as there
  are. -/
  ends : ∀ (returns : Nat) (answers : List StreamAnswer) (calls : List InputCall) (n : Nat),
    streamBytes answers = stream returns lines → answers.length < calls.count .fill →
      lines.length ≤ n → ((OperatorInput.start answers).run
        (calls ++ List.replicate n .takeLine)).2.assembler.isExhausted
  /-- With a line feed alone, every line within the limit is read, and no other one. -/
  command_iff : ∀ (answers : List StreamAnswer) (calls : List InputCall),
    streamBytes answers = stream 0 lines →
    ((OperatorInput.start answers).run calls).2.assembler.isExhausted →
      (.overlong ∉ ((OperatorInput.start answers).run calls).1 ↔
        ∀ line ∈ lines, line.bytes.length ≤ maxLineLength)
  /-- A line feed alone and one behind a carriage return end the same lines exactly when no line
  uses up the limit. -/
  alike_iff : ∀ (answers others : List StreamAnswer) (calls otherCalls : List InputCall),
    streamBytes answers = stream 0 lines → streamBytes others = stream 1 lines →
    ((OperatorInput.start answers).run calls).2.assembler.isExhausted →
    ((OperatorInput.start others).run otherCalls).2.assembler.isExhausted →
      (((OperatorInput.start others).run otherCalls).1 =
          ((OperatorInput.start answers).run calls).1 ↔
        ∀ line ∈ lines, line.bytes.length ≠ maxLineLength)

/-- Line feeds end the same lines alone and behind a carriage return, but for lines that use up
the limit. -/
theorem endsAlike (lines : List PlainLine) : EndsAlike lines := by
  constructor
  · exact fun returns answers calls hstream hexhausted => run_eq hstream hexhausted
  · intro returns answers calls n hstream hmore hn
    refine (Reading.start answers).isExhausted_run hmore ?_
    rwa [hstream, lines_stream, List.length_map]
  · intro answers calls hstream hexhausted
    rw [run_eq hstream hexhausted]
    simp [operatorLine, List.mem_map]
  · intro answers others calls otherCalls hfed hreturned hexhausted hother
    rw [run_eq hfed hexhausted, run_eq hreturned hother, List.map_inj_left]
    simp only [operatorLine_one_eq_iff]

/-! ## The line that uses up the limit -/

/-- A line that uses up the limit. -/
def full : PlainLine where
  bytes := List.replicate maxLineLength 97
  carriageReturn_notMem := by simp [List.mem_replicate, carriageReturn]
  lineFeed_notMem := by simp [List.mem_replicate, lineFeed]

theorem endsStream_full : endsStream (.ok full.bytes) = false := by
  rw [endsStream, full, List.isEmpty_replicate]
  decide

/-- The stream of that line in two pieces: the line, and what ends it. -/
def fullAnswers (returns : Nat) : List StreamAnswer :=
  [⟨.ok full.bytes, endsStream_full⟩,
    ⟨.ok (List.replicate returns carriageReturn ++ [lineFeed]), by simp [endsStream]⟩]

theorem streamBytes_fullAnswers (returns : Nat) :
    streamBytes (fullAnswers returns) = stream returns [full] := by
  change full.bytes ++ ((List.replicate returns carriageReturn ++ [lineFeed]) ++ []) = _
  simp [stream]

/-- A line feed alone and one behind a carriage return do not end the same lines for every list of
lines: the line that uses up the limit is read in the one stream, and dropped in the other. -/
theorem not_alike_full :
    ¬ ∀ (lines : List PlainLine) (answers others : List StreamAnswer)
        (calls otherCalls : List InputCall),
      streamBytes answers = stream 0 lines → streamBytes others = stream 1 lines →
      ((OperatorInput.start answers).run calls).2.assembler.isExhausted →
      ((OperatorInput.start others).run otherCalls).2.assembler.isExhausted →
        ((OperatorInput.start others).run otherCalls).1 =
          ((OperatorInput.start answers).run calls).1 := by
  intro halike
  have hexhausted : ∀ returns, ((OperatorInput.start (fullAnswers returns)).run
      (List.replicate 3 .fill ++ List.replicate 1 .takeLine)).2.assembler.isExhausted := by
    intro returns
    have hfills : (List.replicate 3 InputCall.fill).count .fill = 3 := by decide
    refine (Reading.start (fullAnswers returns)).isExhausted_run ?_ ?_
    · exact hfills ▸ Nat.lt_succ_self 2
    · rw [streamBytes_fullAnswers, lines_stream, List.length_map, List.length_singleton]
  have hsame := halike [full] (fullAnswers 0) (fullAnswers 1) _ _ (streamBytes_fullAnswers 0)
    (streamBytes_fullAnswers 1) (hexhausted 0) (hexhausted 1)
  rw [run_eq (streamBytes_fullAnswers 0) (hexhausted 0),
    run_eq (streamBytes_fullAnswers 1) (hexhausted 1)] at hsame
  have hfull : full.operatorLine 1 = full.operatorLine 0 := List.head_eq_of_cons_eq hsame
  exact (operatorLine_one_eq_iff full).mp hfull List.length_replicate

end PlainLine

end DeviceConsole
