import DeviceConsole.Pattern
import DeviceConsole.Text.Blank
import DeviceConsole.Text.Escape
import DeviceConsole.Text.Reader

/-!
# Reading the smallest parts of patterns

A character stands for itself unless it has a meaning of its own, and a backslash takes
that meaning from a sign or gives one to a letter.  Where blanks count for nothing, comments
do so too.

Main results:

- Definition {lit}`Atom.read`: the smallest part at the beginning of a text.
- Definition {lit}`Atom.readEscape`: what stands behind a backslash.
-/

namespace DeviceConsole.Pattern

/-! ## Blanks -/

/-- Skips blanks and comments where they count for nothing.  A comment runs to the end of its
line. -/
def skipSpace (inComment : Bool) : List Char → List Char
  | [] => []
  | c :: rest =>
      if inComment then skipSpace (c ≠ '\n') rest
      else if isBlank c then skipSpace false rest
      else if c = '#' then skipSpace true rest
      else c :: rest

/-- Skips what counts for nothing. -/
def skip (spaced : Bool) (text : List Char) : List Char :=
  if spaced then skipSpace false text else text

/-! ## Escapes -/

/-- Whether a character is a sign that a pattern gives a meaning to. -/
def isSign (c : Char) : Bool :=
  "\\.+*?()|[]\x7b\x7d^$#&-~".toList.contains c

/-- Whether a backslash in front of a character takes its meaning: signs, and all other
characters of ASCII that are no letters, digits or angle brackets. -/
def isEscapable (c : Char) : Bool :=
  isSign c || (c.toNat < 128 && !c.isAlphanum && c ≠ '<' && c ≠ '>')

/-- Reads so many hexadecimal digits. -/
def readHexadecimal (spaced : Bool) : Nat → Reader (List Char)
  | 0 => fun text => some ([], text)
  | count + 1 => fun text =>
      match skip spaced text with
      | [] => none
      | c :: rest =>
          if (Hex.digit? c).isSome then
            (readHexadecimal spaced count rest).map fun (digits, rest) => (c :: digits, rest)
          else none

/-- Reads a character by its code point in so many digits. -/
def readCodePoint (spaced : Bool) (count : Nat) : Reader Literal := fun text => do
  let (digits, rest) ← readHexadecimal spaced count text
  let char ← Escape.scalar? digits
  return (⟨char, count == 2⟩, rest)

namespace Atom

/-- A literal that was not written as a byte. -/
def plain (c : Char) : Atom :=
  literal ⟨c, false⟩

/-- Reads what stands behind a backslash.  Digits and properties of characters have no
meaning there. -/
def readEscape (spaced : Bool) : Reader Atom
  | [] => none
  | c :: rest =>
      if isEscapable c then some (plain c, rest)
      else
        match c with
        | 'x' => (readCodePoint spaced 2 rest).map fun (value, rest) => (literal value, rest)
        | 'u' => (readCodePoint spaced 4 rest).map fun (value, rest) => (literal value, rest)
        | 'U' => (readCodePoint spaced 8 rest).map fun (value, rest) => (literal value, rest)
        | 'd' | 's' | 'w' => some (shorthand false, rest)
        | 'D' | 'S' | 'W' => some (shorthand true, rest)
        | 'a' => some (plain '\x07', rest)
        | 'f' => some (plain '\x0c', rest)
        | 't' => some (plain '\t', rest)
        | 'n' => some (plain '\n', rest)
        | 'r' => some (plain '\r', rest)
        | 'v' => some (plain '\x0b', rest)
        | 'A' | 'z' => some (edge false, rest)
        | 'b' | 'B' | '<' | '>' => some (edge true, rest)
        | _ => none

/-- Reads an atom outside of brackets.  The signs that begin or join larger parts are not
atoms. -/
def read (spaced : Bool) : Reader Atom
  | '\\' :: rest => readEscape spaced rest
  | '.' :: rest => some (anyChar, rest)
  | '^' :: rest => some (edge false, rest)
  | '$' :: rest => some (edge false, rest)
  | c :: rest => if "()|[\x7b*+?".toList.contains c then none else some (plain c, rest)
  | [] => none

/-- A sign stands for itself behind a backslash, a letter has a meaning there, and a digit has
none. -/
example :
    read false ['\\', '.', 'x'] = some (plain '.', ['x']) ∧
      read false ['\\', 'w'] = some (shorthand false, []) ∧ read false ['\\', '1'] = none ∧
      read false "\\x4A".toList = some (literal ⟨'J', true⟩, []) := by
  decide +kernel

end Atom

end DeviceConsole.Pattern
