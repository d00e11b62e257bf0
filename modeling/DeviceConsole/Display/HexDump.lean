import DeviceConsole.Text.Hex

/-!
# Hex dumps

Bytes that are not text are shown sixteen to a row: the offset of the row, the bytes in
hexadecimal, and the bytes as characters where they are printable ASCII.

Main results:

- Theorem {lit}`flatten_rows`: the rows hold the bytes in order.
- Theorem {lit}`length_le_of_mem_rows`: no row holds more than sixteen.
-/

namespace DeviceConsole.HexDump

/-- The number of bytes in a full row. -/
def rowSize : Nat :=
  16

/-- The bytes cut into rows; only the last row may be short. -/
def rows (bytes : List UInt8) : List (List UInt8) :=
  match bytes with
  | [] => []
  | byte :: rest => (byte :: rest).take rowSize :: rows ((byte :: rest).drop rowSize)
termination_by bytes.length
decreasing_by simp only [rowSize, List.length_drop, List.length_cons]; omega

@[simp]
theorem rows_nil : rows [] = [] := by
  rw [rows]

/-- The rows hold the bytes in order. -/
theorem flatten_rows (bytes : List UInt8) : (rows bytes).flatten = bytes := by
  fun_induction rows bytes with
  | case1 => rfl
  | case2 byte rest ih => rw [List.flatten_cons, ih, List.take_append_drop]

/-- No row holds more than sixteen bytes. -/
theorem length_le_of_mem_rows {bytes row : List UInt8} (h : row ∈ rows bytes) :
    row.length ≤ rowSize := by
  fun_induction rows bytes with
  | case1 => simp at h
  | case2 byte rest ih =>
      rcases List.mem_cons.mp h with rfl | h
      · exact List.length_take_le ..
      · exact ih h

/-- Whether a byte is shown as the ASCII character that it encodes. -/
def isShown (byte : UInt8) : Bool :=
  0x20 ≤ byte && byte ≤ 0x7E

/-- A byte in the character column: itself, or a point when it has no shape. -/
def shown (byte : UInt8) : Char :=
  if isShown byte then Char.ofNat byte.toNat else '.'

/-- The hexadecimal column of a row, with blanks up to the width of a full one. -/
def hexColumn (row : List UInt8) : List Char :=
  let column := [' '].intercalate (row.map Hex.byteUpper)
  column ++ List.replicate (rowSize * 3 - 1 - column.length) ' '

/-- One row of the dump. -/
def line (offset : Nat) (row : List UInt8) : List Char :=
  Hex.paddedUpper 4 offset ++ [' ', ' '] ++ hexColumn row ++ [' ', ' '] ++ row.map shown ++ ['\n']

/-- The lines of rows, the first of which stands at {lit}`offset`. -/
def lines (offset : Nat) : List (List UInt8) → List (List Char)
  | [] => []
  | row :: rest => line offset row :: lines (offset + rowSize) rest

/-- The dump of a run of bytes. -/
def text (bytes : List UInt8) : String :=
  String.ofList (lines 0 (rows bytes)).flatten

end DeviceConsole.HexDump
