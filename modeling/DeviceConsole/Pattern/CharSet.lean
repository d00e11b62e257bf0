import DeviceConsole.Pattern.Atom

/-!
# Reading sets of characters

Brackets hold a set of characters: literals, ranges, classes under a name, and further sets
in brackets of their own.  Doubled signs join sets.

Main results:

- Definition {lit}`CharSet.readBracketed`: a set behind its opening bracket.
-/

namespace DeviceConsole.Pattern.CharSet

/-- The names of classes of ASCII characters. -/
def classNames : List String :=
  ["alnum", "alpha", "ascii", "blank", "cntrl", "digit", "graph", "lower", "print", "punct",
    "space", "upper", "word", "xdigit"]

/-- Reads the name of a class behind its opening bracket: between colons, with a caret in
front when the class is negated, and a bracket at the end. -/
def readNamed : Reader CharSet
  | ':' :: text =>
      let negated := text.head? = some '^'
      let text := if negated then text.tail else text
      match text.dropWhile (· ≠ ':') with
      | ':' :: ']' :: rest =>
          if classNames.contains (String.ofList (text.takeWhile (· ≠ ':'))) then
            some (named negated, rest)
          else none
      | _ => none
  | _ => none

/-! ## Items -/

/-- The character behind a dash, where a comment sign counts as a blank if blanks count for
nothing. -/
def behindDash? (spaced : Bool) (text : List Char) : Option Char :=
  if spaced then
    match text.dropWhile isBlank with
    | '#' :: rest => (rest.dropWhile isBlank).head?
    | rest => rest.head?
  else text.head?

/-- Reads an atom between brackets, where only a backslash has a meaning. -/
def readAtom (spaced : Bool) : Reader Atom
  | '\\' :: rest => Atom.readEscape spaced rest
  | c :: rest => some (Atom.plain c, rest)
  | [] => none

/-- The set of a single atom; an edge is none. -/
def ofAtom? : Atom → Option CharSet
  | .literal value => some (literal value)
  | .shorthand negated => some (shorthand negated)
  | _ => none

/-- The range between two atoms, which are literals in their order. -/
def ofRange? : Atom → Atom → Option CharSet
  | .literal first, .literal last =>
      if first.char ≤ last.char then some (range first last) else none
  | _, _ => none

/-- Reads an atom, or a range when a dash joins it to another one. -/
def readItem (spaced : Bool) : Reader CharSet := fun text => do
  let (first, rest) ← readAtom spaced text
  match skip spaced rest with
  | '-' :: behind =>
      if behindDash? spaced behind = some ']' ∨ behindDash? spaced behind = some '-' then
        (ofAtom? first).map (·, '-' :: behind)
      else do
        let (last, rest) ← readAtom spaced (skip spaced behind)
        (ofRange? first last).map (·, rest)
  | rest => (ofAtom? first).map (·, rest)

/-! ## Sets -/

/-- The set of the items read last, joined to the set in front of them if there is one. -/
def joinTo (left : Option CharSet) (items : List CharSet) : CharSet :=
  match left with
  | some left => combined left (ofItems items.reverse)
  | none => ofItems items.reverse

/-- Whether two signs at the front of a text join sets. -/
def isJoint (first second : Char) : Bool :=
  first = second && (first = '&' || first = '-' || first = '~')

mutual

/-- Reads a set behind its opening bracket.  Each step of the two readers uses up some of the
fuel. -/
def readBracketed : Nat → Bool → Reader CharSet
  | 0, _, _ => none
  | fuel + 1, spaced, text =>
      match skip spaced text with
      | '^' :: rest =>
          (readItems fuel spaced true none [] rest).map fun (inner, rest) =>
            (bracketed true inner, rest)
      | rest =>
          (readItems fuel spaced true none [] rest).map fun (inner, rest) =>
            (bracketed false inner, rest)

/-- Reads the items of a set and its closing bracket, given the set to which they are joined
and the items so far, the last one first.  At the front of a set dashes are literal, and so is
a closing bracket that comes first. -/
def readItems : Nat → Bool → Bool → Option CharSet → List CharSet → Reader CharSet
  | 0, _, _, _, _, _ => none
  | fuel + 1, spaced, atFront, left, items, text =>
      match skip spaced text with
      | [] => none
      | c :: rest =>
          if atFront && c = '-' then
            readItems fuel spaced true left (literal ⟨c, false⟩ :: items) rest
          else if c = ']' then
            if atFront && items.isEmpty then
              readItems fuel spaced false left (literal ⟨c, false⟩ :: items) rest
            else some (joinTo left items, rest)
          else if c = '[' then
            match readNamed rest with
            | some (item, rest) => readItems fuel spaced false left (item :: items) rest
            | none => do
                let (item, rest) ← readBracketed fuel spaced rest
                readItems fuel spaced false left (item :: items) rest
          else if rest.head?.any (isJoint c) then
            readItems fuel spaced false (some (joinTo left items)) [] rest.tail
          else do
            let (item, rest) ← readItem spaced (c :: rest)
            readItems fuel spaced false left (item :: items) rest

end

end DeviceConsole.Pattern.CharSet
