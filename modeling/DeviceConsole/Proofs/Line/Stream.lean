import DeviceConsole.Line.Assembler
import Mathlib.Data.List.DropRight

/-!
# The lines of a stream

What lines a stream of bytes holds does not depend on how the stream is read.  The stream
is cut at its line feeds; each piece in front of a line feed is a line, and the last piece
is one as soon as the stream is over, unless it is empty.  This module says so in one step
for a whole stream, and shows that the assembler arrives at the same lines read by read.

Main results:

- Theorem {lit}`splitLines_ofPiece`: a run of bytes behind an unfinished line completes the
  pieces that the two together have in front of their line feeds.
- Theorem {lit}`Assembled.fill`: a read keeps taken and waiting lines equal to the lines of
  the bytes that were read.
-/

namespace DeviceConsole

/-- The line that a piece of the stream stands for. -/
def OperatorLine.ofPiece (piece : List UInt8) : OperatorLine :=
  if piece.length > maxLineLength then .overlong
  else .command (String.ofList ((Utf8.decode piece).rdropWhile (· == '\r')))

/-! ## Lines in one step -/

namespace LineStream

/-- The pieces of a stream that end at a line feed. -/
def finished (bytes : List UInt8) : List (List UInt8) :=
  (bytes.splitOn lineFeed).dropLast

/-- The piece behind the last line feed of a stream. -/
def unfinished (bytes : List UInt8) : List UInt8 :=
  (bytes.splitOn lineFeed).getLastD []

/-- The lines of a stream.  The piece behind the last line feed counts when the stream is
over and the piece is not empty. -/
def lines (bytes : List UInt8) (ended : Bool) : List OperatorLine :=
  (finished bytes ++ if ended ∧ unfinished bytes ≠ [] then [unfinished bytes] else []).map
    OperatorLine.ofPiece

/-- A stream is a piece without a line feed, or such a piece, a line feed and a stream. -/
theorem induction {motive : List UInt8 → Prop}
    (last : ∀ piece, lineFeed ∉ piece → motive piece)
    (feed : ∀ piece rest, lineFeed ∉ piece → motive rest → motive (piece ++ lineFeed :: rest))
    (bytes : List UInt8) : motive bytes := by
  by_cases hmem : lineFeed ∈ bytes
  · obtain ⟨piece, rest, rfl, hpiece⟩ := List.eq_append_cons_of_mem hmem
    exact feed piece rest hpiece (induction last feed rest)
  · exact last bytes hmem
termination_by bytes.length
decreasing_by
  subst bytes
  simp only [List.length_append, List.length_cons]
  omega

@[simp]
theorem finished_of_notMem {piece : List UInt8} (hpiece : lineFeed ∉ piece) :
    finished piece = [] := by
  simp [finished, List.splitOn_eq_singleton hpiece]

@[simp]
theorem unfinished_of_notMem {piece : List UInt8} (hpiece : lineFeed ∉ piece) :
    unfinished piece = piece := by
  simp [unfinished, List.splitOn_eq_singleton hpiece]

theorem finished_append_cons {piece : List UInt8} (hpiece : lineFeed ∉ piece)
    (rest : List UInt8) : finished (piece ++ lineFeed :: rest) = piece :: finished rest := by
  rw [finished, List.splitOn_append_cons_self_of_not_mem hpiece,
    List.dropLast_cons_of_ne_nil (List.splitOn_ne_nil _ _), finished]

theorem unfinished_append_cons {piece : List UInt8} (hpiece : lineFeed ∉ piece)
    (rest : List UInt8) : unfinished (piece ++ lineFeed :: rest) = unfinished rest := by
  have hne := List.splitOn_ne_nil lineFeed rest
  rw [unfinished, List.splitOn_append_cons_self_of_not_mem hpiece, unfinished]
  obtain ⟨first, more, hmore⟩ := List.exists_cons_of_ne_nil hne
  simp [hmore]

/-- No line feed is left in the unfinished piece. -/
theorem lineFeed_notMem_unfinished (bytes : List UInt8) : lineFeed ∉ unfinished bytes := by
  induction bytes using LineStream.induction with
  | last piece hpiece => simp [hpiece]
  | feed piece rest hpiece ih => rwa [unfinished_append_cons hpiece]

/-- What follows a stream completes its unfinished piece first. -/
theorem finished_append (bytes more : List UInt8) :
    finished (bytes ++ more) = finished bytes ++ finished (unfinished bytes ++ more) := by
  induction bytes using LineStream.induction with
  | last piece hpiece => simp [hpiece]
  | feed piece rest hpiece ih =>
      rw [List.append_assoc, List.cons_append, finished_append_cons hpiece,
        finished_append_cons hpiece, unfinished_append_cons hpiece, ih, List.cons_append]

theorem unfinished_append (bytes more : List UInt8) :
    unfinished (bytes ++ more) = unfinished (unfinished bytes ++ more) := by
  induction bytes using LineStream.induction with
  | last piece hpiece => simp [hpiece]
  | feed piece rest hpiece ih =>
      rw [List.append_assoc, List.cons_append, unfinished_append_cons hpiece,
        unfinished_append_cons hpiece, ih]

/-- The lines of a stream that goes on are those of its finished pieces. -/
theorem lines_false (bytes : List UInt8) :
    lines bytes false = (finished bytes).map .ofPiece := by
  simp [lines]

/-- The end of a stream makes its unfinished piece a line, unless the piece is empty. -/
theorem lines_true (bytes : List UInt8) :
    lines bytes true =
      lines bytes false ++ if unfinished bytes = [] then [] else [.ofPiece (unfinished bytes)] := by
  by_cases hempty : unfinished bytes = [] <;> simp [lines, hempty]

/-- There is one line for each line feed, and one for an unfinished piece. -/
theorem length_lines_true (bytes : List UInt8) :
    (lines bytes true).length =
      bytes.count lineFeed + if unfinished bytes = [] then 0 else 1 := by
  have hfinished : (finished bytes).length = bytes.count lineFeed := by
    induction bytes using LineStream.induction with
    | last piece hpiece => simp [hpiece, List.count_eq_zero.mpr hpiece]
    | feed piece rest hpiece ih =>
        rw [finished_append_cons hpiece, List.length_cons, ih, List.count_append,
          List.count_eq_zero.mpr hpiece, List.count_cons_self, Nat.zero_add]
  rw [lines_true, lines_false, List.length_append, List.length_map, hfinished]
  split <;> rfl

/-- The lines of the bytes so far are the first ones of those of the whole stream. -/
theorem lines_false_isPrefix (bytes more : List UInt8) :
    lines bytes false <+: lines (bytes ++ more) true := by
  rw [lines_true, lines_false, lines_false, finished_append, List.map_append, List.append_assoc]
  exact List.prefix_append _ _

/-- Whatever a line holds, the lines in front of it and behind it are those of their own bytes. -/
theorem lines_around {front piece : List UInt8} (hfront : unfinished front = [])
    (hpiece : lineFeed ∉ piece) (back : List UInt8) :
    lines (front ++ piece ++ lineFeed :: back) true =
      lines front true ++ .ofPiece piece :: lines back true := by
  rw [List.append_assoc, lines_true front, lines_true, lines_false, finished_append,
    unfinished_append, hfront, List.nil_append, finished_append_cons hpiece,
    unfinished_append_cons hpiece, lines_true back, lines_false back, lines_false front]
  simp

end LineStream

/-! ## The unfinished line -/

namespace LineTail

/-- The unfinished line that has been given the bytes of a piece. -/
def ofPiece (piece : List UInt8) : LineTail :=
  if piece.length > maxLineLength then ⟨[], true⟩ else ⟨piece, false⟩

@[simp]
theorem ofPiece_nil : ofPiece [] = .empty :=
  rfl

/-- Once a piece is too long, whatever follows leaves it too long. -/
theorem extend_ofPiece (piece more : List UInt8) :
    (ofPiece piece).extend more = ofPiece (piece ++ more) := by
  by_cases hlong : piece.length > maxLineLength
  · have hmore : (piece ++ more).length > maxLineLength := by
      rw [List.length_append]
      omega
    simp only [ofPiece, extend, if_pos hlong, if_pos hmore]
    rfl
  · simp [ofPiece, extend, hlong]

theorem finish_ofPiece (piece : List UInt8) : (ofPiece piece).finish = .ofPiece piece := by
  by_cases hlong : piece.length > maxLineLength
  · simp [ofPiece, finish, OperatorLine.ofPiece, hlong]
  · simp [ofPiece, finish, OperatorLine.ofPiece, hlong, dropReturns, List.rdropWhile]

theorem isStarted_ofPiece (piece : List UInt8) : (ofPiece piece).isStarted ↔ piece ≠ [] := by
  by_cases hlong : piece.length > maxLineLength
  · have hne : piece ≠ [] := List.ne_nil_of_length_pos (by omega)
    simp [ofPiece, isStarted, hlong, hne]
  · simp [ofPiece, isStarted, hlong]

end LineTail

/-! ## Lines read by read -/

/-- A line feed ends the unfinished line together with the bytes in front of it. -/
theorem splitLines_append_cons (tail : LineTail) {piece : List UInt8}
    (hpiece : lineFeed ∉ piece) (rest : List UInt8) :
    splitLines tail (piece ++ lineFeed :: rest) =
      ((tail.extend piece).finish :: (splitLines .empty rest).1, (splitLines .empty rest).2) := by
  have hall : ∀ byte ∈ piece, (byte != lineFeed) = true := by
    intro byte hbyte
    simp only [bne_iff_ne]
    intro heq
    exact hpiece (heq ▸ hbyte)
  have htake : (piece ++ lineFeed :: rest).takeWhile (· != lineFeed) = piece := by
    simp [List.takeWhile_append_of_pos hall]
  have hdrop : (piece ++ lineFeed :: rest).dropWhile (· != lineFeed) = lineFeed :: rest := by
    simp [List.dropWhile_append_of_pos hall]
  rw [splitLines]
  split
  · rename_i hnone
    simp [hdrop] at hnone
  · rename_i hfound
    rw [hdrop] at hfound
    obtain ⟨-, rfl⟩ := List.cons.inj hfound
    rw [htake]

/-- A run of bytes behind an unfinished line completes the pieces that the two together
have in front of their line feeds. -/
theorem splitLines_ofPiece {piece : List UInt8} (hpiece : lineFeed ∉ piece)
    (bytes : List UInt8) :
    splitLines (.ofPiece piece) bytes =
      ((LineStream.finished (piece ++ bytes)).map .ofPiece,
        .ofPiece (LineStream.unfinished (piece ++ bytes))) := by
  induction bytes using LineStream.induction generalizing piece with
  | last more hmore =>
      have hboth : lineFeed ∉ piece ++ more := by
        simp [hpiece, hmore]
      rw [splitLines_of_no_lineFeed _ hmore, LineTail.extend_ofPiece,
        LineStream.finished_of_notMem hboth, LineStream.unfinished_of_notMem hboth, List.map_nil]
  | feed more rest hmore ih =>
      have hboth : lineFeed ∉ piece ++ more := by
        simp [hpiece, hmore]
      have hrest := @ih [] (by simp)
      rw [LineTail.ofPiece_nil, List.nil_append] at hrest
      rw [splitLines_append_cons _ hmore, hrest, LineTail.extend_ofPiece,
        LineTail.finish_ofPiece, ← List.append_assoc, LineStream.finished_append_cons hboth,
        LineStream.unfinished_append_cons hboth, List.map_cons]

/-- The bytes that a read of the stream gives. -/
def readBytes : Except IoFailure (List UInt8) → List UInt8
  | .ok bytes => bytes
  | .error _ => []

/-- Whether a read of the stream is its end: it gives no bytes, or fails for good. -/
def endsStream : Except IoFailure (List UInt8) → Bool
  | .ok bytes => bytes.isEmpty
  | .error failure => !failure.isTransient

/-- A read of an open input closes it exactly when it is the end of the stream. -/
theorem LineAssembler.fill_closed {input : LineAssembler} (hopen : input.closed = false)
    (answer : Except IoFailure (List UInt8)) :
    (input.fill answer).2.closed = endsStream answer := by
  rcases answer with failure | bytes
  · cases htransient : failure.isTransient <;> simp [fill, hopen, endsStream, htransient]
  · cases bytes <;> simp [fill, accept, hopen, endsStream]

theorem LineAssembler.close_lines {input : LineAssembler} (hopen : input.closed = false) :
    input.close.lines =
      input.lines ++ if input.tail.isStarted then [input.tail.finish] else [] := by
  cases hstarted : input.tail.isStarted <;> simp [close, hopen, hstarted]

/-- The input after bytes were read from a stream and lines were taken: the lines taken and
those that wait are the lines of the stream, and the line that has no end yet is its
unfinished piece. -/
structure Assembled (bytes : List UInt8) (taken : List OperatorLine) (input : LineAssembler) :
    Prop where
  lines_eq : taken ++ input.lines = LineStream.lines bytes input.closed
  tail_eq : input.closed = false → input.tail = .ofPiece (LineStream.unfinished bytes)

namespace Assembled

variable {bytes : List UInt8} {taken : List OperatorLine} {input : LineAssembler}

theorem empty : Assembled [] [] .empty where
  lines_eq := by simp [LineAssembler.empty, LineStream.lines]
  tail_eq := by simp [LineAssembler.empty]

/-- Bytes taken in go on with the stream. -/
theorem accept (h : Assembled bytes taken input) (hopen : input.closed = false)
    (more : List UInt8) : Assembled (bytes ++ more) taken (input.accept more) := by
  have hlines := h.lines_eq
  have hsplit := splitLines_ofPiece (LineStream.lineFeed_notMem_unfinished bytes) more
  rw [hopen, LineStream.lines_false] at hlines
  rw [← h.tail_eq hopen] at hsplit
  constructor
  · simp only [LineAssembler.accept, hsplit, hopen, LineStream.lines_false]
    rw [LineStream.finished_append bytes, List.map_append, ← hlines, List.append_assoc]
  · intro _
    simp only [LineAssembler.accept, hsplit]
    rw [← LineStream.unfinished_append]

/-- At the end of the stream the unfinished piece becomes a line. -/
theorem close (h : Assembled bytes taken input) (hopen : input.closed = false) :
    Assembled bytes taken input.close := by
  have hlines := h.lines_eq
  rw [hopen] at hlines
  constructor
  · rw [LineAssembler.close_closed, LineStream.lines_true, ← hlines,
      LineAssembler.close_lines hopen, h.tail_eq hopen, LineTail.finish_ofPiece, List.append_assoc]
    by_cases hstarted : LineStream.unfinished bytes = []
    · simp [hstarted, LineTail.isStarted, LineTail.empty]
    · simp [hstarted, (LineTail.isStarted_ofPiece _).mpr hstarted]
  · intro hclosed
    simp at hclosed

/-- A read goes on with the stream, ends it, or leaves it as it is. -/
theorem fill (h : Assembled bytes taken input) (hopen : input.closed = false)
    (answer : Except IoFailure (List UInt8)) :
    Assembled (bytes ++ readBytes answer) taken (input.fill answer).2 ∧
      (input.fill answer).2.closed = endsStream answer := by
  refine ⟨?_, LineAssembler.fill_closed hopen answer⟩
  cases answer with
  | ok more =>
      cases more with
      | nil =>
          rw [readBytes, List.append_nil]
          simpa [LineAssembler.fill, hopen] using h.close hopen
      | cons byte rest =>
          simpa [LineAssembler.fill, hopen, readBytes] using h.accept hopen (byte :: rest)
  | error failure =>
      rw [readBytes, List.append_nil]
      cases htransient : failure.isTransient with
      | true => simpa [LineAssembler.fill, hopen, htransient] using h
      | false => simpa [LineAssembler.fill, hopen, htransient] using h.close hopen

/-- Taking a line moves it from those that wait to those that were taken. -/
theorem takeLine (h : Assembled bytes taken input) {line : OperatorLine}
    {rest : List OperatorLine} (hwait : input.lines = line :: rest) :
    Assembled bytes (taken ++ [line]) { input with lines := rest } where
  lines_eq := by
    rw [← h.lines_eq, hwait, List.append_assoc, List.singleton_append]
  tail_eq := h.tail_eq

/-- Lines are taken from the front of the stream. -/
theorem taken_isPrefix (h : Assembled bytes taken input) :
    taken <+: LineStream.lines bytes input.closed :=
  ⟨input.lines, h.lines_eq⟩

/-- When the input is used up, every line of the stream was taken. -/
theorem taken_eq_of_isExhausted (h : Assembled bytes taken input)
    (hexhausted : input.isExhausted) : taken = LineStream.lines bytes true := by
  simp only [LineAssembler.isExhausted, Bool.and_eq_true, List.isEmpty_iff] at hexhausted
  have hlines := h.lines_eq
  rwa [hexhausted.1, hexhausted.2, List.append_nil] at hlines

end Assembled

end DeviceConsole
