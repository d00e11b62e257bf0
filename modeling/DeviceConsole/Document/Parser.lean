import DeviceConsole.Document.Value

/-!
# Reading documents

A document is a sequence of lines, each with a key and its value, with the header of a
table, or with neither.  A key belongs to the table whose header came last.

Main results:

- Definition {lit}`parse?`: the entries of a document, when it is one.
- Theorem {lit}`build_append`: the lines of a document take effect one after the other.
-/

namespace DeviceConsole.Document

/-! ## Keys -/

/-- Whether a character may stand in a key without quotes. -/
def isKeyCharacter (c : Char) : Bool :=
  c.isAlphanum || c = '-' || c = '_'

/-- Reads one part of a key. -/
def readKeyPart : Reader String := fun text =>
  match readShortText text with
  | some found => some found
  | none =>
      let run := text.takeWhile isKeyCharacter
      if run.isEmpty then none
      else some (String.ofList run, text.dropWhile isKeyCharacter)

/-- Reads a key: its parts with points between them.  Blanks around each part are skipped, and
the first argument bounds the number of parts. -/
def readKey : Nat → Reader (List String)
  | 0, _ => none
  | room + 1, text => do
      let (part, text) ← readKeyPart (skipBlanks text)
      match skipBlanks text with
      | '.' :: rest => (readKey room rest).map fun (parts, rest) => (part :: parts, rest)
      | rest => some ([part], rest)

/-- The greatest number of parts of a key, and the greatest depth at which arrays and tables in
braces may lie within each other. -/
def nestingLimit : Nat :=
  79

/-- Reads a key of any number of parts up to the limit. -/
def readAnyKey : Reader (List String) :=
  readKey nestingLimit

/-! ## Values -/

/-- Whether a character may stand in a word. -/
def isWordCharacter (c : Char) : Bool :=
  c.isAlphanum || c = '+' || c = '-' || c = '_' || c = '.' || c = ':'

/-- The value that a word stands for. -/
def wordValue? (word : List Char) : Option Value :=
  if word = "true".toList then some (.boolean true)
  else if word = "false".toList then some (.boolean false)
  else
    match integer? word with
    | some n => some (.integer n)
    | none =>
        match float? word with
        | some isFinite => some (.float isFinite)
        | none => if isMoment word then some .moment else none

/-- Reads a word.  A date and a time with a blank between them are one word. -/
def readWord : Reader Value := fun text =>
  let word := text.takeWhile isWordCharacter
  let rest := text.dropWhile isWordCharacter
  let (word, rest) :=
    match rest with
    | ' ' :: d :: more =>
        if isDate word && d.isDigit then
          (word ++ ' ' :: (d :: more).takeWhile isWordCharacter,
            (d :: more).dropWhile isWordCharacter)
        else (word, rest)
    | _ => (word, rest)
  (wordValue? word).map (·, rest)

/-- Adds a key and its value to a closed table that is not complete yet. -/
def addClosed (parts : List String) (value : Value) (entries : Entries) : Option Entries := do
  let key ← parts.getLast?
  entries.assign parts.dropLast key value .declared

mutual

/-- Reads a value.  Each step of the three readers uses up some of the fuel, and {lit}`room`
says how deep arrays and tables may still lie within each other. -/
def readValue : Nat → Nat → Reader Value
  | 0, _, _ => none
  | fuel + 1, room, text =>
      match text, room with
      | '[' :: _, 0 => none
      | '\x7b' :: _, 0 => none
      | '[' :: rest, room + 1 =>
          (readItems fuel room rest).map fun (items, rest) => (.array items, rest)
      | '\x7b' :: rest, room + 1 =>
          match skipBlanks rest with
          | '\x7d' :: rest => some (.closed [], rest)
          | rest => (readPairs fuel room [] rest).map fun (entries, rest) => (.closed entries, rest)
      | _, _ =>
          if text.head? = some '"' || text.head? = some '\'' then
            (readText text).map fun (text, rest) => (.text text, rest)
          else readWord text

/-- Reads the items of an array up to the closing bracket. -/
def readItems : Nat → Nat → Reader (List Value)
  | 0, _, _ => none
  | fuel + 1, room, text => do
      let text ← skipGap false text
      match text with
      | ']' :: rest => some ([], rest)
      | _ =>
          let (item, rest) ← readValue fuel room text
          match ← skipGap false rest with
          | ']' :: rest => some ([item], rest)
          | ',' :: rest => (readItems fuel room rest).map fun (items, rest) => (item :: items, rest)
          | _ => none

/-- Reads the keys and values of a closed table up to the closing brace. -/
def readPairs : Nat → Nat → Entries → Reader Entries
  | 0, _, _, _ => none
  | fuel + 1, room, entries, text => do
      let (parts, rest) ← readAnyKey text
      let (_, rest) ← Reader.char '=' rest
      let (value, rest) ← readValue fuel room (skipBlanks rest)
      let entries ← addClosed parts value entries
      match skipBlanks rest with
      | '\x7d' :: rest => some (entries, rest)
      | ',' :: rest => readPairs fuel room entries rest
      | _ => none

end

/-- Reads a value of any depth up to the limit. -/
def readAnyValue : Reader Value := fun text =>
  readValue (2 * text.length + 2) nestingLimit text

/-! ## Lines -/

/-- What a line does: it gives a key its value, or begins a table. -/
inductive Line where
  | assign (path : List String) (key : String) (value : Value)
  | header (path : List String) (key : String)
  | repeatedHeader (path : List String) (key : String)

/-- Reads a key and cuts off its last part. -/
def readSplitKey : Reader (List String × String) := fun text => do
  let (parts, rest) ← readAnyKey text
  let key ← parts.getLast?
  return ((parts.dropLast, key), rest)

/-- Reads what a line does. -/
def readLine : Reader Line := fun text =>
  match text with
  | '[' :: '[' :: rest => do
      let ((path, key), rest) ← readSplitKey rest
      let (_, rest) ← Reader.exactly [']', ']'] rest
      return (.repeatedHeader path key, rest)
  | '[' :: rest => do
      let ((path, key), rest) ← readSplitKey rest
      let (_, rest) ← Reader.char ']' rest
      return (.header path key, rest)
  | _ => do
      let ((path, key), rest) ← readSplitKey text
      let (_, rest) ← Reader.char '=' rest
      let (value, rest) ← readAnyValue (skipBlanks rest)
      return (.assign path key value, rest)

/-- Whether nothing but blanks and a comment is left of a line. -/
def atLineEnd (text : List Char) : Bool :=
  let rest := skipBlanks text
  rest.isEmpty || rest.head? = some '#' || beginsLineEnd rest

/-- Reads the lines of a document; {lit}`room` bounds their number. -/
def readLines : Nat → List Char → Option (List Line)
  | 0, _ => none
  | room + 1, text => do
      let text ← skipGap false text
      if text.isEmpty then return []
      let (line, rest) ← readLine text
      if atLineEnd rest then
        return line :: (← readLines room rest)
      else none

/-! ## Documents -/

/-- A document while its lines take effect: its entries and the header that came last. -/
structure Draft where
  header : List String
  entries : Entries

/-- Changes the table at a path. -/
def Draft.under (draft : Draft) (path : List String)
    (change : TableForm → Entries → Option Entries) : Option Entries :=
  draft.entries.descend false change path .declared

/-- Lets a line take effect. -/
def Draft.apply (draft : Draft) : Line → Option Draft
  | .assign path key value => do
      let entries ← draft.under draft.header (Entries.assign path key value)
      return { draft with entries }
  | .header path key => do
      let entries ← draft.under path fun _ entries => entries.declare key
      return ⟨path ++ [key], entries⟩
  | .repeatedHeader path key => do
      let entries ← draft.under path fun _ entries => entries.declareNext key
      return ⟨path ++ [key], entries⟩

/-- Lets lines take effect in their order. -/
def Draft.build (draft : Draft) (lines : List Line) : Option Draft :=
  lines.foldlM Draft.apply draft

/-- The lines of a document take effect one after the other. -/
theorem build_append (draft : Draft) (front back : List Line) :
    draft.build (front ++ back) = (draft.build front).bind (·.build back) := by
  simp [Draft.build, List.foldlM_append]

/-- The text without a byte order mark in front. -/
def dropMark (text : List Char) : List Char :=
  if text.head? = some '\ufeff' then text.tail else text

/-- The entries of the document that a text stands for. -/
def parse? (text : String) : Option Entries := do
  let body := dropMark text.toList
  let lines ← readLines (body.length + 1) body
  let draft ← Draft.build ⟨[], []⟩ lines
  return draft.entries

end DeviceConsole.Document
