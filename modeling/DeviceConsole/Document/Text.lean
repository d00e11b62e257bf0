import DeviceConsole.Text.Escape
import DeviceConsole.Text.Reader

/-!
# Text in documents

A configuration document writes text between quotes.  Double quotes allow escapes and
apostrophes do not; either may be tripled, and the text may then run over several lines.
Comments run to the end of a line.

Main results:

- Definition {lit}`readText`: text in any of its four forms.
-/

namespace DeviceConsole.Document

/-! ## Characters -/

/-- Whether a character may stand in a comment or between apostrophes: no control character
except a tab. -/
def isPrintable (c : Char) : Bool :=
  c = '\t' || (0x20 ≤ c.toNat && c.toNat ≠ 0x7F)

/-- Whether a character is a blank within a line. -/
def isInlineBlank (c : Char) : Bool :=
  c = ' ' || c = '\t'

/-- The text without the blanks in front of it in the line. -/
def skipBlanks (text : List Char) : List Char :=
  text.dropWhile isInlineBlank

/-- Whether a text begins with the end of a line. -/
def beginsLineEnd : List Char → Bool
  | '\n' :: _ => true
  | '\r' :: '\n' :: _ => true
  | _ => false

/-- Skips blanks, line ends and comments.  A comment with a control character in it is
malformed. -/
def skipGap (inComment : Bool) : List Char → Option (List Char)
  | [] => some []
  | '\r' :: '\n' :: rest => skipGap false rest
  | c :: rest =>
      if c = '\n' then skipGap false rest
      else if inComment then
        if isPrintable c then skipGap true rest else none
      else if isInlineBlank c then skipGap false rest
      else if c = '#' then skipGap true rest
      else some (c :: rest)

/-! ## Text -/

/-- Reads up to the closing double quote. -/
def readBasic : Reader (List Char)
  | '"' :: rest => some ([], rest)
  | '\\' :: text =>
      match found : Escape.read? text with
      | some (c, rest) =>
          have := Escape.length_rest_lt found
          (readBasic rest).map fun (run, rest) => (c :: run, rest)
      | none => none
  | c :: rest =>
      if isPrintable c then (readBasic rest).map fun (run, rest) => (c :: run, rest) else none
  | [] => none
termination_by text => text.length
decreasing_by all_goals (simp only [List.length_cons]; omega)

/-- Reads up to the closing apostrophe. -/
def readLiteral : Reader (List Char)
  | '\'' :: rest => some ([], rest)
  | c :: rest =>
      if isPrintable c then (readLiteral rest).map fun (run, rest) => (c :: run, rest) else none
  | [] => none

/-- Reads up to three closing double quotes; up to two more in front of them belong to the
text.  While {lit}`skipping` is set, blanks and line ends are left out, as they are behind a
backslash at the end of a line. -/
def readLongBasic (skipping : Bool) : Reader (List Char)
  | '"' :: '"' :: '"' :: '"' :: '"' :: rest => some (['"', '"'], rest)
  | '"' :: '"' :: '"' :: '"' :: rest => some (['"'], rest)
  | '"' :: '"' :: '"' :: rest => some ([], rest)
  | '\\' :: text =>
      if beginsLineEnd (skipBlanks text) then readLongBasic true text
      else
        match found : Escape.read? text with
        | some (c, rest) =>
            have := Escape.length_rest_lt found
            (readLongBasic false rest).map fun (run, rest) => (c :: run, rest)
        | none => none
  | '\r' :: '\n' :: rest =>
      if skipping then readLongBasic true rest
      else (readLongBasic false rest).map fun (run, rest) => ('\n' :: run, rest)
  | c :: rest =>
      if skipping && (isInlineBlank c || c = '\n') then readLongBasic true rest
      else if isPrintable c || c = '\n' then
        (readLongBasic false rest).map fun (run, rest) => (c :: run, rest)
      else none
  | [] => none
termination_by text => text.length
decreasing_by all_goals (simp only [List.length_cons]; omega)

/-- Reads up to three closing apostrophes; up to two more in front of them belong to the
text. -/
def readLongLiteral : Reader (List Char)
  | '\'' :: '\'' :: '\'' :: '\'' :: '\'' :: rest => some (['\'', '\''], rest)
  | '\'' :: '\'' :: '\'' :: '\'' :: rest => some (['\''], rest)
  | '\'' :: '\'' :: '\'' :: rest => some ([], rest)
  | '\r' :: '\n' :: rest => (readLongLiteral rest).map fun (run, rest) => ('\n' :: run, rest)
  | c :: rest =>
      if isPrintable c || c = '\n' then
        (readLongLiteral rest).map fun (run, rest) => (c :: run, rest)
      else none
  | [] => none

/-- The text without a line end at its front, which the opening quotes of a long text may
have behind them. -/
def dropLineEnd : List Char → List Char
  | '\n' :: rest => rest
  | '\r' :: '\n' :: rest => rest
  | text => text

/-- Reads text that stays on its line. -/
def readShortText : Reader String := fun text =>
  match text with
  | '"' :: rest => (readBasic rest).map fun (run, rest) => (String.ofList run, rest)
  | '\'' :: rest => (readLiteral rest).map fun (run, rest) => (String.ofList run, rest)
  | _ => none

/-- Reads text in any of its four forms. -/
def readText : Reader String := fun text =>
  match text with
  | '"' :: '"' :: '"' :: rest =>
      (readLongBasic false (dropLineEnd rest)).map fun (run, rest) => (String.ofList run, rest)
  | '\'' :: '\'' :: '\'' :: rest =>
      (readLongLiteral (dropLineEnd rest)).map fun (run, rest) => (String.ofList run, rest)
  | _ => readShortText text

end DeviceConsole.Document
