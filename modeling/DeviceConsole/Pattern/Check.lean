import DeviceConsole.Pattern.Parser

/-!
# Patterns that can be used

A pattern is matched against text in UTF-8 without tables of the properties of characters.
So it cannot be used when a part asks for such a table, which is the case for classes of all
scripts and for letters in any case, or when a part could match bytes that are no text.
It must not be nested too deeply either.

Main results:

- Theorem {lit}`fault?_eq_none_iff`: the patterns that can be used.
-/

namespace DeviceConsole

/-- Why a text cannot be used as a pattern. -/
inductive PatternFault where
  /-- It is no pattern, or asks for what is not offered. -/
  | unsupported
  /-- It asks where words of any script begin and end. -/
  | wordEdge
deriving DecidableEq, Repr

/-- The fault's message. -/
def PatternFault.message : PatternFault → String
  | unsupported => "error building NFA"
  | wordEdge =>
      "unsupported regex feature for DFAs: cannot build DFAs for regexes with Unicode word " ++
        "boundaries; switch to ASCII word boundaries, or heuristically enable Unicode word " ++
        "boundaries or use a different regex engine"

namespace Pattern

/-- What decides the meaning of an atom: whether case is ignored, and whether characters of
all scripts are meant. -/
structure Mode where
  ignoresCase : Bool
  unicode : Bool
deriving DecidableEq, Repr

namespace Mode

/-- The mode in which a pattern begins. -/
def initial : Mode :=
  ⟨false, true⟩

/-- The mode after a change of flags. -/
def apply (mode : Mode) (change : FlagChange) : Mode where
  ignoresCase := change.apply .ignoreCase mode.ignoresCase
  unicode := change.apply .unicode mode.unicode

end Mode

/-- Whether a literal is a character of ASCII. -/
def Literal.isAscii (value : Literal) : Bool :=
  value.char.toNat < 128

/-- Whether a shorthand can be used: not for all scripts, and not for what it leaves out. -/
def shorthandFits (mode : Mode) (negated : Bool) : Bool :=
  !mode.unicode && !negated

/-- Whether an atom can be used. -/
def Atom.fits (mode : Mode) : Atom → Bool
  | literal value =>
      if mode.unicode then !mode.ignoresCase else !value.isByte || value.isAscii
  | anyChar => mode.unicode
  | edge _ => true
  | shorthand negated => shorthandFits mode negated

namespace CharSet

/-- Whether a member of a set can be used: where characters of all scripts are meant if case
matters, and elsewhere if it is one of ASCII. -/
def memberFits (mode : Mode) (isAscii : Bool) : Bool :=
  if mode.unicode then !mode.ignoresCase else isAscii

mutual

/-- Whether a set can be used. -/
def fits (mode : Mode) : CharSet → Bool
  | nothing => true
  | literal value => memberFits mode value.isAscii
  | range first last => memberFits mode (first.isAscii && last.isAscii)
  | named negated => memberFits mode !negated
  | shorthand negated => shorthandFits mode negated
  | bracketed negated inner => inner.fits mode && (mode.unicode || !negated)
  | union items => allFit mode items
  | combined left right => left.fits mode && right.fits mode

/-- Whether some sets can all be used. -/
def allFit (mode : Mode) : List CharSet → Bool
  | [] => true
  | item :: rest => item.fits mode && allFit mode rest

end

end CharSet

/-- What is known of a pattern from its beginning up to some part: the mode there, and whether
the edges of words of all scripts were asked for. -/
structure Progress where
  mode : Mode
  wordEdge : Bool
deriving DecidableEq, Repr

mutual

/-- Goes through a pattern from left to right, when all its parts can be used.  A group keeps
its changes of flags to itself. -/
def walk : Pattern → Progress → Option Progress
  | empty, progress => some progress
  | change flags, progress => some { progress with mode := progress.mode.apply flags }
  | atom part, progress =>
      if part.fits progress.mode then
        let isWordEdge := part = .edge true && progress.mode.unicode
        some { progress with wordEdge := progress.wordEdge || isWordEdge }
      else none
  | set inner, progress => if inner.fits progress.mode then some progress else none
  | repeated item, progress => item.walk progress
  | group flags inner, progress =>
      (inner.walk { progress with mode := progress.mode.apply flags }).map fun after =>
        { after with mode := progress.mode }
  | sequence items, progress => walkAll items progress
  | choice branches, progress => walkAll branches progress

/-- Goes through patterns from the first to the last. -/
def walkAll : List Pattern → Progress → Option Progress
  | [], progress => some progress
  | item :: rest, progress => (item.walk progress).bind (walkAll rest)

end

/-- The greatest depth at which the parts of a pattern may lie within each other. -/
def depthLimit : Nat :=
  250

/-- What is known at the end of a text that is a pattern of parts that can be used. -/
def progress? (text : List Char) : Option Progress := do
  let pattern ← parse? text
  if pattern.depth ≤ depthLimit then pattern.walk ⟨.initial, false⟩ else none

/-- Why a text cannot be used as a pattern, if it cannot. -/
def fault? (text : List Char) : Option PatternFault :=
  match progress? text with
  | none => some .unsupported
  | some progress => if progress.wordEdge then some .wordEdge else none

/-- The patterns that can be used are those that are not too deep, have parts that can be used,
and do not ask for the edges of words of all scripts. -/
theorem fault?_eq_none_iff (text : List Char) :
    fault? text = none ↔
      ∃ pattern, parse? text = some pattern ∧ pattern.depth ≤ depthLimit ∧
        ∃ mode, pattern.walk ⟨.initial, false⟩ = some ⟨mode, false⟩ := by
  unfold fault? progress?
  cases parse? text with
  | none => simp
  | some pattern =>
      by_cases shallow : pattern.depth ≤ depthLimit
      · cases found : pattern.walk ⟨.initial, false⟩ with
        | none => simp [shallow, found]
        | some progress =>
            obtain ⟨mode, wordEdge⟩ := progress
            cases wordEdge <;> simp [shallow, found]
      · simp [shallow]

/-- Digits of all scripts cannot be used and those of ASCII can; a group keeps its flags to
itself. -/
example :
    fault? "a.*".toList = none ∧ fault? "\\d".toList = some .unsupported ∧
      fault? "(?-u:\\d)é".toList = none ∧ fault? "(?-u:\\d)\\d".toList = some .unsupported ∧
      fault? "\\bx".toList = some .wordEdge ∧ fault? "(?-u)\\bx".toList = none := by
  decide +kernel

end Pattern

end DeviceConsole
