import DeviceConsole.Binary64
import DeviceConsole.Document.Text
import DeviceConsole.Settings.Layer
import DeviceConsole.Text.Blank
import DeviceConsole.Text.ByteCut

/-!
# Values of variables

A variable holds a text, and the text may look like something else: a number, a truth value,
a list or a table.  A text that looks like none of them is itself.  A number too large for its
format is nothing at all.

Main results:

- Definition {lit}`interpret`: what the text of a variable stands for.
-/

namespace DeviceConsole.VariableValue

/-- Whether a character ends a bare value within a list or a table. -/
def isSeparator (c : Char) : Bool :=
  c = ',' || c = '[' || c = ']' || c = '\x7b' || c = '\x7d'

/-- Skips blanks of ASCII. -/
def skipBlanks (text : List Char) : List Char :=
  text.dropWhile fun c => c = ' ' || c = '\t' || c = '\n' || c = '\x0c' || c = '\r'

/-! ## Scalars -/

/-- The integer that a text stands for, when it fits sixty-four bits with a sign or without
one. -/
def integer? (text : List Char) : Option Int :=
  (Decimal.integer? text).filter fun n =>
    Decimal.fitsSigned64 n || (0 ≤ n && n < 18446744073709551616)

/-- What a text without quotes and brackets stands for.  A decimal with a point is a number, and
nothing if it is too large. -/
def ofBare (text : List Char) : PlainValue :=
  if text.contains '.' && (Binary64.decimal? text).isSome then
    if (Binary64.finite? text).isSome then .other else .nothing
  else
    match integer? text with
    | some n => .integer n
    | none => .text (String.ofList text)

/-- Reads a text behind its opening quote.  In front of the first escape only so many bytes are
kept as there are characters. -/
def readQuoted : Reader String := fun text =>
  let front := text.takeWhile fun c => c ≠ '"' && c ≠ '\\'
  (Document.readBasic text).map fun (run, rest) =>
    if text[front.length]? = some '\\' then
      (String.ofList (takeBytes front.length front ++ run.drop front.length), rest)
    else (String.ofList run, rest)

/-- Reads the key of a table: a text between quotes, or letters, digits, underscores and
dashes. -/
def readKey : Reader String
  | '"' :: rest => readQuoted rest
  | text =>
      let isKeyCharacter (c : Char) : Bool := c.isAlphanum || c = '_' || c = '-'
      let run := text.takeWhile isKeyCharacter
      if run.isEmpty then none else some (String.ofList run, text.dropWhile isKeyCharacter)

/-! ## Lists and tables -/

/-- The entries of a table with one more, which replaces an entry of the same key. -/
def put (entries : List (String × PlainValue)) (key : String) (value : PlainValue) :
    List (String × PlainValue) :=
  entries.filter (·.1 ≠ key) ++ [(key, value)]

mutual

/-- Reads a value and the blanks around it.  Each step of the three readers uses up some of the
fuel. -/
def readValue : Nat → Reader LayerValue
  | 0, _ => none
  | fuel + 1, text =>
      let found : Option (LayerValue × List Char) :=
        match skipBlanks text with
        | 't' :: 'r' :: 'u' :: 'e' :: rest => some (.plain .other, rest)
        | 'f' :: 'a' :: 'l' :: 's' :: 'e' :: rest => some (.plain .other, rest)
        | '\x7b' :: rest =>
            (readEntries fuel [] rest).map fun (entries, rest) => (.table entries, rest)
        | '[' :: rest => (readItems fuel rest).map fun rest => (.plain .other, rest)
        | '"' :: rest => (readQuoted rest).map fun (value, rest) => (.plain (.text value), rest)
        | '\'' :: c :: '\'' :: rest => some (.plain (.text c.toString), rest)
        | '\'' :: _ => none
        | rest =>
            some (.plain (ofBare (trim (rest.takeWhile (!isSeparator ·)))),
              rest.dropWhile (!isSeparator ·))
      found.map fun (value, rest) => (value, skipBlanks rest)

/-- Reads the items of a list and its closing bracket, and leaves what is behind it. -/
def readItems : Nat → List Char → Option (List Char)
  | 0, _ => none
  | fuel + 1, text =>
      match text with
      | ']' :: rest => some rest
      | _ => do
          match ← readValue fuel text with
          | (_, ',' :: rest) => readItems fuel rest
          | (_, ']' :: rest) => some rest
          | _ => none

/-- Reads the entries of a table and its closing brace. -/
def readEntries : Nat → List (String × PlainValue) → Reader (List (String × PlainValue))
  | 0, _, _ => none
  | fuel + 1, entries, text =>
      match text with
      | '\x7d' :: rest => some (entries, rest)
      | _ => do
          let (key, rest) ← readKey (skipBlanks text)
          let (_, rest) ← Reader.char '=' (skipBlanks rest)
          let (value, rest) ← readValue fuel rest
          let entries := put entries key value.flat
          match rest with
          | ',' :: rest => readEntries fuel entries rest
          | '\x7d' :: rest => some (entries, rest)
          | _ => none

end

/-! ## Whole texts -/

/-- Whether a text is a truth value in any case. -/
def isTruthValue (text : List Char) : Bool :=
  ["true", "false"].contains (lowerAscii (String.ofList text))

/-- Whether a text is a list without brackets: it has a comma, and nothing that keeps commas
together. -/
def isOpenList (text : List Char) : Bool :=
  text.contains ',' && !(['[', '\x7b', '"', '\''].any fun c => text.head? = some c)

/-- What the text of a variable stands for. -/
def interpret (written : String) : LayerValue :=
  let text := trim written.toList
  if isTruthValue text || isOpenList text then .plain .other
  else
    let itself : LayerValue := .plain (.text (String.ofList text))
    (Reader.whole (readValue (2 * text.length + 2)) text).getD itself

/-- An address is a text, in quotes or without, and a number is one even with a sign. -/
example :
    interpret " 127.0.0.1 " = .plain (.text "127.0.0.1") ∧
      interpret "\"a\\tb\"" = .plain (.text "a\tb") ∧ interpret "+05" = .plain (.integer 5) ∧
      interpret "[::1]" = .plain .other ∧ interpret "[::1" = .plain (.text "[::1") ∧
      interpret "1.5" = .plain .other ∧ interpret "1.5e999" = .plain .nothing ∧
      interpret "True" = .plain .other ∧ interpret "a,b" = .plain .other ∧
      interpret "\x7ba=1,a=x\x7d" = .table [("a", .text "x")] := by
  decide +kernel

end DeviceConsole.VariableValue
