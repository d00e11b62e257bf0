import DeviceConsole.Settings.Layer
import DeviceConsole.Text.Decimal

/-!
# Settings on the command line

Each setting has a flag with a long name and a letter.  A value stands behind its flag,
either in the next word or in the same one.  One more flag names a document with settings.
Nothing else may stand on the command line, and no flag may stand there twice.

Main results:

- Theorem {lit}`ofName?_name` and {lit}`ofLetter?_letter`: a flag is found by its names.
- Theorem {lit}`read_nil`: an empty command line sets nothing.
-/

namespace DeviceConsole

/-! ## Flags -/

/-- A flag of the command line. -/
inductive Flag where
  /-- The flag of a setting. -/
  | setting (key : SettingKey)
  /-- The flag for the path of a document with settings. -/
  | document
deriving DecidableEq, Repr

namespace Flag

/-- All flags. -/
def all : List Flag :=
  document :: SettingKey.all.map setting

/-- The flag's long name, without the dashes in front of it. -/
def name : Flag → String
  | setting .listenHost => "listen-host"
  | setting .listenPort => "listen-port"
  | setting .addressFamily => "address-family"
  | setting .blockSize => "block-size"
  | setting .logFilter => "log-filter"
  | setting .logFormat => "log-format"
  | document => "config-path"

/-- The flag's letter, if it has one. -/
def letter? : Flag → Option Char
  | setting .listenHost => some 'l'
  | setting .listenPort => some 'L'
  | setting .addressFamily => some 'a'
  | setting .blockSize => some 'b'
  | setting .logFilter => some 'o'
  | setting .logFormat => some 'O'
  | document => none

/-- The flag with a long name. -/
def ofName? (name : List Char) : Option Flag :=
  all.find? (·.name.toList == name)

/-- The flag with a letter. -/
def ofLetter? (letter : Char) : Option Flag :=
  all.find? (·.letter? == some letter)

/-- A flag is known by its name. -/
@[simp]
theorem ofName?_name (flag : Flag) : ofName? flag.name.toList = some flag := by
  cases flag with
  | setting key => cases key <;> decide +kernel
  | document => decide +kernel

/-- A letter is that of one flag at most. -/
theorem ofLetter?_letter {flag : Flag} {c : Char} (h : flag.letter? = some c) :
    ofLetter? c = some flag := by
  cases flag with
  | setting key => cases key <;> (simp only [letter?, Option.some.injEq] at h; subst h; decide)
  | document => simp [letter?] at h

end Flag

/-! ## Words -/

/-- What a word of the command line is, where no value is awaited. -/
inductive FlagWord where
  /-- A flag with its value. -/
  | complete (flag : Flag) (value : String)
  /-- A flag whose value is the next word. -/
  | waiting (flag : Flag)
  /-- The end of the flags. -/
  | terminator
  /-- Anything else. -/
  | foreign

namespace FlagWord

/-- A word that begins with two dashes. -/
def ofLong (word : List Char) : FlagWord :=
  match Flag.ofName? (word.takeWhile (· ≠ '=')), word.dropWhile (· ≠ '=') with
  | some flag, [] => waiting flag
  | some flag, _ :: value => complete flag (String.ofList value)
  | none, _ => foreign

/-- A word that begins with one dash and a letter. -/
def ofShort (letter : Char) (behind : List Char) : FlagWord :=
  match Flag.ofLetter? letter, behind with
  | some flag, [] => waiting flag
  | some flag, '=' :: value => complete flag (String.ofList value)
  | some flag, value => complete flag (String.ofList value)
  | none, _ => foreign

/-- What a word is. -/
def ofText (word : List Char) : FlagWord :=
  match word with
  | ['-', '-'] => terminator
  | '-' :: '-' :: rest => ofLong rest
  | '-' :: letter :: behind => ofShort letter behind
  | _ => foreign

end FlagWord

/-- Whether a word can be the value of the flag in front of it: it does not look like a flag
itself. -/
def isFlagValue (word : List Char) : Bool :=
  word.head? ≠ some '-' || word = ['-']

/-! ## Command lines -/

/-- A command line: the settings that it sets and the path of a document. -/
structure CommandLine where
  settings : Settings
  document : Option String
deriving DecidableEq, Repr

namespace CommandLine

/-- The flags of a command line with their values, in order. -/
def occurrences : List String → Option (List (Flag × String))
  | [] => some []
  | word :: rest =>
      match FlagWord.ofText word.toList with
      | .complete flag value => (occurrences rest).map ((flag, value) :: ·)
      | .waiting flag =>
          match rest with
          | value :: rest =>
              if isFlagValue value.toList then (occurrences rest).map ((flag, value) :: ·)
              else none
          | [] => none
      | .terminator => if rest.isEmpty then some [] else none
      | .foreign => none

/-- The number of sixteen bits that a text stands for; a sign is allowed. -/
def word? (text : String) : Option UInt16 :=
  (Decimal.integer? text.toList).bind fun n => LayerValue.word? (.plain (.integer n))

/-- Reads the value of a flag, if it is given. -/
def field {α : Type} (read : String → Option α) : Option String → Option (Option α)
  | none => some none
  | some value => (read value).map some

/-- The settings and the document of flags, when no flag is repeated and each value is
acceptable. -/
def ofOccurrences (given : List (Flag × String)) : Option CommandLine :=
  if (given.map (·.1)).Nodup then do
    let value (key : SettingKey) : Option String := given.lookup (.setting key)
    return {
      settings := {
        listenHost := value .listenHost
        listenPort := ← field word? (value .listenPort)
        addressFamily := ← field AddressFamily.ofAnyCase? (value .addressFamily)
        blockSize := ← field word? (value .blockSize)
        logFilter := value .logFilter
        logFormat := ← field LogFormat.ofAnyCase? (value .logFormat) }
      document := given.lookup .document }
  else none

/-- What a command line sets, when it is well formed. -/
def read (words : List String) : Option CommandLine :=
  (occurrences words).bind ofOccurrences

/-- An empty command line sets nothing. -/
theorem read_nil : read [] = some ⟨.empty, none⟩ :=
  rfl

end CommandLine

end DeviceConsole
