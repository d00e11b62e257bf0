import DeviceConsole.Text.Pieces

/-!
# Patterns

A log filter may describe the value of a field by a pattern: a regular expression over
characters.  A pattern is kept as a tree of what was written, because flags decide what a
part means and they reach from left to right through the tree.

Main results:

- Definition {lit}`Pattern.depth`: how deep the parts of a pattern lie within each other.
- Theorem {lit}`ofLetter?_letter`: a flag is found by its letter.
-/

namespace DeviceConsole

/-! ## Flags -/

/-- A flag, which changes what the rest of a pattern means. -/
inductive PatternFlag where
  | ignoreCase
  | multiLine
  | dotAll
  | swapGreed
  | unicode
  | crlf
  /-- Blanks and comments between the parts of a pattern count for nothing. -/
  | spaced
deriving DecidableEq, Repr

namespace PatternFlag

/-- All flags. -/
def all : List PatternFlag :=
  [ignoreCase, multiLine, dotAll, swapGreed, unicode, crlf, spaced]

/-- The flag's letter. -/
def letter : PatternFlag → Char
  | ignoreCase => 'i'
  | multiLine => 'm'
  | dotAll => 's'
  | swapGreed => 'U'
  | unicode => 'u'
  | crlf => 'R'
  | spaced => 'x'

/-- The flag with a letter. -/
def ofLetter? (c : Char) : Option PatternFlag :=
  all.find? (·.letter == c)

/-- A flag is known by its letter. -/
@[simp]
theorem ofLetter?_letter (flag : PatternFlag) : ofLetter? flag.letter = some flag := by
  cases flag <;> decide

end PatternFlag

/-- A change of flags: those that are set and those that are cleared. -/
structure FlagChange where
  set : List PatternFlag
  cleared : List PatternFlag
deriving DecidableEq, Repr

namespace FlagChange

/-- The change that leaves every flag alone. -/
def none : FlagChange :=
  ⟨[], []⟩

/-- What a change makes of a flag, if it names the flag. -/
def state? (change : FlagChange) (flag : PatternFlag) : Option Bool :=
  if flag ∈ change.set then some true
  else if flag ∈ change.cleared then some false
  else Option.none

/-- A flag after a change. -/
def apply (change : FlagChange) (flag : PatternFlag) (before : Bool) : Bool :=
  (change.state? flag).getD before

/-- The change that a text stands for: the letters of flags, and behind a dash those of flags
that are cleared.  No flag is named twice, and a dash has something behind it. -/
def ofText? (text : List Char) : Option FlagChange := do
  let (set, cleared) ←
    match pieces '-' text with
    | [set] => some (set, [])
    | [set, c :: cleared] => some (set, c :: cleared)
    | _ => Option.none
  let change : FlagChange :=
    ⟨← set.mapM PatternFlag.ofLetter?, ← cleared.mapM PatternFlag.ofLetter?⟩
  if (change.set ++ change.cleared).Nodup then some change else Option.none

/-- A flag may be set and another cleared; none is named twice. -/
example :
    ofText? "i-x".toList = some ⟨[.ignoreCase], [.spaced]⟩ ∧ ofText? "".toList = some none ∧
      ofText? "i-i".toList = Option.none ∧ ofText? "i-".toList = Option.none := by
  decide +kernel

end FlagChange

/-! ## Parts of patterns -/

namespace Pattern

/-- A literal character, and whether it was written as a byte in two hexadecimal digits. -/
structure Literal where
  char : Char
  isByte : Bool
deriving DecidableEq, Repr

/-- A part of a pattern that has no parts. -/
inductive Atom where
  | literal (value : Literal)
  | anyChar
  /-- The edge of a line, a text, or a word. -/
  | edge (ofWord : Bool)
  /-- The digits, the blanks or the word characters, or all others. -/
  | shorthand (negated : Bool)
deriving DecidableEq, Repr

/-- What stands between brackets: a set of characters. -/
inductive CharSet where
  | nothing
  | literal (value : Literal)
  | range (first last : Literal)
  /-- A class of ASCII characters under its name. -/
  | named (negated : Bool)
  | shorthand (negated : Bool)
  | bracketed (negated : Bool) (inner : CharSet)
  | union (items : List CharSet)
  /-- What two sets share, or what one of them has alone. -/
  | combined (left right : CharSet)

namespace CharSet

/-- The set of some items. -/
def ofItems : List CharSet → CharSet
  | [] => nothing
  | [item] => item
  | items => union items

mutual

/-- How deep the parts of a set lie within each other. -/
def depth : CharSet → Nat
  | bracketed _ inner => inner.depth + 1
  | union items => depthOfAll items + 1
  | combined left right => max left.depth right.depth + 1
  | _ => 0

/-- The greatest depth of some sets. -/
def depthOfAll : List CharSet → Nat
  | [] => 0
  | item :: rest => max item.depth (depthOfAll rest)

end

end CharSet

end Pattern

/-! ## Patterns -/

/-- A pattern. -/
inductive Pattern where
  | empty
  /-- A change of flags for what comes behind it. -/
  | change (flags : FlagChange)
  | atom (atom : Pattern.Atom)
  | set (inner : Pattern.CharSet)
  | repeated (item : Pattern)
  /-- A group, and a change of flags within it. -/
  | group (flags : FlagChange) (inner : Pattern)
  | sequence (items : List Pattern)
  | choice (branches : List Pattern)

namespace Pattern

/-- The pattern of some items, one behind the other. -/
def ofItems : List Pattern → Pattern
  | [] => empty
  | [item] => item
  | items => sequence items

/-- The pattern of some branches, of which there is one at least. -/
def ofBranches : List Pattern → Pattern
  | [] => empty
  | [branch] => branch
  | branches => choice branches

/-- Whether a pattern can be repeated: a change of flags cannot. -/
def isRepeatable : Pattern → Bool
  | change _ => false
  | _ => true

mutual

/-- How deep the parts of a pattern lie within each other. -/
def depth : Pattern → Nat
  | empty => 0
  | change _ => 0
  | atom _ => 0
  | set inner => inner.depth
  | repeated item => item.depth + 1
  | group _ inner => inner.depth + 1
  | sequence items => depthOfAll items + 1
  | choice branches => depthOfAll branches + 1

/-- The greatest depth of some patterns. -/
def depthOfAll : List Pattern → Nat
  | [] => 0
  | item :: rest => max item.depth (depthOfAll rest)

end

end Pattern

end DeviceConsole
