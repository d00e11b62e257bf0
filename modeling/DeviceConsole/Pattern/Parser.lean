import DeviceConsole.Pattern.CharSet
import DeviceConsole.Text.Alphabet

/-!
# Reading patterns

A pattern is a choice of branches, and a branch a sequence of items: atoms, sets, groups
and changes of flags, each of which may be repeated.  Counted repetition is not offered.

Main results:

- Definition {lit}`parse?`: the pattern that a text stands for.
-/

namespace DeviceConsole.Pattern

/-- What has to be remembered from left to right: whether blanks count for nothing, and the
names of groups so far. -/
structure Scope where
  spaced : Bool
  names : List String
deriving DecidableEq, Repr

/-- The scope after a change of flags. -/
def Scope.apply (scope : Scope) (change : FlagChange) : Scope :=
  { scope with spaced := change.apply .spaced scope.spaced }

/-! ## Heads of groups -/

/-- What an opening parenthesis begins. -/
inductive Head where
  /-- Nothing: it is a change of flags that is complete. -/
  | change (flags : FlagChange)
  /-- A group, which may have a name. -/
  | opens (flags : FlagChange) (name : Option String)
deriving DecidableEq, Repr

/-- Whether a text may be the name of a group. -/
def isGroupName : List Char → Bool
  | [] => false
  | c :: rest =>
      (c = '_' || Alphabet.isAlphabetic c) &&
        rest.all fun c =>
          c = '_' || c = '.' || c = '[' || c = ']' || Alphabet.isAlphanumeric c

/-- Reads the name of a group and the angle bracket behind it. -/
def readGroupName : Reader Head := fun text =>
  match text.dropWhile (· ≠ '>') with
  | '>' :: rest =>
      let name := text.takeWhile (· ≠ '>')
      if isGroupName name then some (.opens .none (some (String.ofList name)), rest) else none
  | _ => none

/-- Reads flags, and a colon or a closing parenthesis behind them.  A change that is complete
changes something. -/
def readFlags : Reader Head := fun text => do
  let run := text.takeWhile fun c => c ≠ ':' && c ≠ ')'
  let change ← FlagChange.ofText? run
  match text.drop run.length with
  | ':' :: rest => return (.opens change none, rest)
  | ')' :: rest => if run.isEmpty then none else return (.change change, rest)
  | _ => none

/-- Reads what stands behind an opening parenthesis. -/
def readHead : Reader Head
  | '?' :: 'P' :: '<' :: rest => readGroupName rest
  | '?' :: '<' :: rest => readGroupName rest
  | '?' :: rest => readFlags rest
  | rest => some (.opens .none none, rest)

/-! ## Branches -/

/-- Whether a character repeats the item in front of it. -/
def isRepetition (c : Char) : Bool :=
  c = '?' || c = '*' || c = '+'

/-- The text without a question mark in front, which makes a repetition reluctant. -/
def dropReluctance : List Char → List Char
  | '?' :: rest => rest
  | rest => rest

/-- The choice of the branches so far and the branch that is read now; both are given with the
last one first. -/
def close (branches items : List Pattern) : Pattern :=
  ofBranches ((ofItems items.reverse :: branches).reverse)

/-- The items with the last one repeated, when there is one that can be. -/
def repeatLast : List Pattern → Option (List Pattern)
  | item :: items => if item.isRepeatable then some (repeated item :: items) else none
  | [] => none

/-- Reads branches up to a closing parenthesis or the end of the text, given the branches and
the items so far.  Each step uses up some of the fuel. -/
def readBranches : Nat → Scope → List Pattern → List Pattern → Reader (Pattern × Scope)
  | 0, _, _, _, _ => none
  | fuel + 1, scope, branches, items, text =>
      match skip scope.spaced text with
      | [] => some ((close branches items, scope), [])
      | c :: rest =>
          if c = ')' then some ((close branches items, scope), c :: rest)
          else if c = '|' then
            readBranches fuel scope (ofItems items.reverse :: branches) [] rest
          else if c = '(' then do
            match ← readHead (skip scope.spaced rest) with
            | (.change flags, rest) =>
                readBranches fuel (scope.apply flags) branches (change flags :: items) rest
            | (.opens flags name, rest) =>
                if name.any scope.names.contains then none
                else do
                  let names := name.toList ++ scope.names
                  let within := { scope with names }.apply flags
                  let ((inner, after), rest) ← readBranches fuel within [] [] rest
                  let (_, rest) ← Reader.char ')' rest
                  readBranches fuel { after with spaced := scope.spaced } branches
                    (group flags inner :: items) rest
          else if c = '[' then do
            let (inner, rest) ← CharSet.readBracketed (2 * rest.length + 2) scope.spaced rest
            readBranches fuel scope branches (set inner :: items) rest
          else if isRepetition c then do
            let items ← repeatLast items
            readBranches fuel scope branches items (dropReluctance rest)
          else do
            let (item, rest) ← Atom.read scope.spaced (c :: rest)
            readBranches fuel scope branches (atom item :: items) rest

/-- The pattern that a text stands for. -/
def parse? (text : List Char) : Option Pattern :=
  (Reader.whole (readBranches (text.length + 1) ⟨false, []⟩ [] []) text).map (·.1)

/-- A repetition needs something to repeat, and parentheses and brackets come in pairs.  Within
brackets a closing bracket may come first, a range must be in order, and a class has a name. -/
example :
    ["a|(?i-x:b)*?", "[]a-z]", "[^[:alpha:]&&a-]", "(?x) a # b \n +"].all
        (fun text => (parse? text.toList).isSome) ∧
      ["*a", "a|+", "(a", "a)", "(?i)*", "[z-a]", "[]", "a\x7b"].all
        fun text => (parse? text.toList).isNone := by
  decide +kernel

end DeviceConsole.Pattern
