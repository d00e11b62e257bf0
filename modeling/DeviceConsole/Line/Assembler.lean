import DeviceConsole.Failure
import DeviceConsole.Text.Utf8

/-!
# Assembling operator lines

The operator's bytes arrive in pieces of any size and are put together to lines here.  A
line ends at a line feed; what is left when the stream ends is a line too, unless it is
empty.  A line of more than {lit}`maxLineLength` bytes is dropped as a whole and leaves a
mark in its place, so that the lines around it are untouched.

Main results:

- Theorem {lit}`splitLines_of_no_lineFeed`: bytes without a line feed complete no line.
- Theorem {lit}`fill_of_closed`: a closed input takes nothing in.
-/

namespace DeviceConsole

/-- The most bytes that are asked for in one read. -/
def readSize : Nat :=
  8192

/-- The most bytes that a line may have, its line feed not counted. -/
def maxLineLength : Nat :=
  8192

/-- One line of the operator's. -/
inductive OperatorLine where
  /-- A line within the limit, without its terminator. -/
  | command (text : String)
  /-- A line beyond the limit, whose bytes were dropped. -/
  | overlong
deriving DecidableEq, Repr

/-! ## The unfinished line -/

/-- The bytes of a line that has no end yet. -/
structure LineTail where
  bytes : List UInt8
  overlong : Bool
deriving DecidableEq, Repr

namespace LineTail

/-- The line before its first byte. -/
def empty : LineTail :=
  ⟨[], false⟩

/-- Whether the line has any byte, kept or dropped. -/
def isStarted (tail : LineTail) : Bool :=
  tail.overlong || !tail.bytes.isEmpty

/-- The line with more bytes, which are dropped with all others once the limit is passed. -/
def extend (tail : LineTail) (bytes : List UInt8) : LineTail :=
  if tail.overlong then tail
  else if tail.bytes.length + bytes.length > maxLineLength then ⟨[], true⟩
  else ⟨tail.bytes ++ bytes, false⟩

/-- A text without the carriage returns at its end. -/
def dropReturns (text : List Char) : List Char :=
  (text.reverse.dropWhile (· == '\r')).reverse

/-- The line when it ends here. -/
def finish (tail : LineTail) : OperatorLine :=
  if tail.overlong then .overlong
  else .command (String.ofList (dropReturns (Utf8.decode tail.bytes)))

end LineTail

/-- The byte that ends a line. -/
def lineFeed : UInt8 :=
  10

/-- The lines that a run of bytes completes, and the unfinished line after it. -/
def splitLines (tail : LineTail) (bytes : List UInt8) : List OperatorLine × LineTail :=
  let head := bytes.takeWhile (· != lineFeed)
  match _found : bytes.dropWhile (· != lineFeed) with
  | [] => ([], tail.extend head)
  | _ :: rest =>
      let (lines, last) := splitLines .empty rest
      ((tail.extend head).finish :: lines, last)
termination_by bytes.length
decreasing_by
  have := (List.dropWhile_suffix (l := bytes) (· != lineFeed)).length_le
  simp_all only [List.length_cons]
  omega

/-- A run of bytes without a line feed is its own longest one. -/
theorem span_of_no_lineFeed {bytes : List UInt8} (h : lineFeed ∉ bytes) :
    bytes.takeWhile (· != lineFeed) = bytes ∧ bytes.dropWhile (· != lineFeed) = [] := by
  induction bytes with
  | nil => exact ⟨rfl, rfl⟩
  | cons byte rest ih =>
      obtain ⟨different, absent⟩ : lineFeed ≠ byte ∧ lineFeed ∉ rest := by
        simpa using h
      obtain ⟨take, drop⟩ := ih absent
      simp [Ne.symm different, take, drop]

/-- Bytes without a line feed complete no line. -/
theorem splitLines_of_no_lineFeed (tail : LineTail) {bytes : List UInt8}
    (h : lineFeed ∉ bytes) : splitLines tail bytes = ([], tail.extend bytes) := by
  obtain ⟨take, drop⟩ := span_of_no_lineFeed h
  rw [splitLines]
  split
  · rw [take]
  · rename_i found
    simp [drop] at found

/-! ## The assembler -/

/-- The operator's input: complete lines that wait to be taken, and the unfinished one. -/
structure LineAssembler where
  lines : List OperatorLine
  tail : LineTail
  closed : Bool
deriving DecidableEq, Repr

namespace LineAssembler

/-- The input before the first read. -/
def empty : LineAssembler :=
  ⟨[], .empty, false⟩

/-- Whether a complete line waits. -/
def hasLine (input : LineAssembler) : Bool :=
  !input.lines.isEmpty

/-- Whether the stream has ended and every line was taken. -/
def isExhausted (input : LineAssembler) : Bool :=
  input.closed && input.lines.isEmpty

/-- Takes in bytes. -/
def accept (input : LineAssembler) (bytes : List UInt8) : LineAssembler :=
  let (lines, tail) := splitLines input.tail bytes
  { input with lines := input.lines ++ lines, tail }

/-- Ends the stream; an unfinished line that has any byte becomes the last one. -/
def close (input : LineAssembler) : LineAssembler :=
  if input.closed then input
  else
    { lines := if input.tail.isStarted then input.lines ++ [input.tail.finish] else input.lines
      tail := .empty
      closed := true }

/-- Takes in the result of one read.  No bytes are the end of the stream, and a failure that
is not transient ends it too and is reported. -/
def fill (input : LineAssembler) (read : Except IoFailure (List UInt8)) :
    Except IoFailure Unit × LineAssembler :=
  if input.closed then (.ok (), input)
  else
    match read with
    | .ok [] => (.ok (), input.close)
    | .ok bytes => (.ok (), input.accept bytes)
    | .error failure =>
        if failure.isTransient then (.ok (), input) else (.error failure, input.close)

/-- Takes the next complete line. -/
def takeLine (input : LineAssembler) : Option OperatorLine × LineAssembler :=
  match input.lines with
  | [] => (none, input)
  | line :: lines => (some line, { input with lines })

/-- A closed input takes nothing in. -/
@[simp]
theorem fill_of_closed {input : LineAssembler} (h : input.closed)
    (read : Except IoFailure (List UInt8)) : input.fill read = (.ok (), input) := by
  simp [fill, h]

/-- Ending the stream leaves a closed input. -/
@[simp]
theorem close_closed (input : LineAssembler) : input.close.closed := by
  unfold close
  split <;> simp_all

end LineAssembler

end DeviceConsole
