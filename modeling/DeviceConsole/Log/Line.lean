import DeviceConsole.Log.Record
import DeviceConsole.Settings
import DeviceConsole.Text.Hex
import DeviceConsole.Text.Quoted

/-!
# Lines of the log

A log record is written compactly for a reader, or as an object for a program.  An object
stands on one line.

Main results:

- Theorem {lit}`escape_ne_lineFeed`: a line end in a value does not end the line of an object.
-/

namespace DeviceConsole

namespace LogLine

/-- A character as it stands between the quotes of an object. -/
def escape (c : Char) : List Char :=
  if c = '"' ∨ c = '\\' then ['\\', c]
  else if c.toNat < 0x20 then "\\u00".toList ++ Hex.byteLower (UInt8.ofNat c.toNat)
  else [c]

/-- A text between quotes. -/
def quoted (text : String) : String :=
  "\"" ++ String.ofList (text.toList.flatMap escape) ++ "\""

/-- A value for a reader. -/
def compactValue : LogValue → String
  | .text content => Quoted.quote content
  | value => value.content

/-- A record for a reader.  The message and values that are shown by what they say of themselves
stand there as they are, so they may take up further lines. -/
def compact (record : LogRecord) : String :=
  let fields := record.fields.map fun (name, value) => " " ++ name ++ "=" ++ compactValue value
  record.level.name ++ " " ++ record.component.target ++ ": " ++ record.message ++
    String.join fields

/-- A value for a program. -/
def objectValue : LogValue → String
  | .number n => toString n
  | value => quoted value.content

/-- A record for a program. -/
def object (record : LogRecord) : String :=
  let fields := [("level", .text record.level.name),
    ("target", .text record.component.target), ("message", .text record.message)] ++ record.fields
  "\x7b" ++
    ",".intercalate (fields.map fun (name, value) => quoted name ++ ":" ++ objectValue value) ++
    "\x7d"

/-- A line end in a value does not end the line of an object. -/
theorem escape_ne_lineFeed (c : Char) : '\n' ∉ escape c := by
  unfold escape
  split
  · rename_i special
    rcases special with rfl | rfl <;> decide
  · split
    · rename_i control
      have each : ∀ n : Fin 32, '\n' ∉ "\\u00".toList ++ Hex.byteLower (UInt8.ofNat n) := by
        decide +kernel
      exact each ⟨c.toNat, control⟩
    · rename_i printable
      simp only [List.mem_singleton]
      rintro rfl
      exact printable (by decide)

end LogLine

/-- A record as it is written in a format. -/
def LogFormat.line : LogFormat → LogRecord → String
  | compact => LogLine.compact
  | json => LogLine.object

end DeviceConsole
