import DeviceConsole.Text.Hex
import DeviceConsole.Text.Printable

/-!
# Quoted text

Log records show operator text between double quotes.  Tabs, line ends, quotes and
backslashes are escaped by name, and a character without a shape of its own by its
code point, so that a record stays on one line whatever the operator typed.

Main results:

- Definition {lit}`quote`: a quoted text is its escaped characters between quotes.
-/

namespace DeviceConsole.Quoted

/-- The escape of a character by its code point. -/
def codePoint (c : Char) : String :=
  "\\u\x7b" ++ Hex.lower c.toNat ++ "\x7d"

/-- A character as it stands in a quoted text. -/
def escape (c : Char) : String :=
  if c = '\x00' then "\\0"
  else if c = '\t' then "\\t"
  else if c = '\r' then "\\r"
  else if c = '\n' then "\\n"
  else if c = '\\' then "\\\\"
  else if c = '"' then "\\\""
  else if Printable.isPlain c then c.toString
  else codePoint c

/-- A text between double quotes. -/
def quote (text : String) : String :=
  "\"" ++ String.join (text.toList.map escape) ++ "\""

end DeviceConsole.Quoted
