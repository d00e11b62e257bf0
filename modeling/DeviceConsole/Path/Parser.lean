import DeviceConsole.Path
import DeviceConsole.Text.Pieces

/-!
# Reading resource paths

A path is read from its slashes: one in front of each level and at most one more at the
end.  The first fault decides the answer, in the order in which the text is scanned.

Main results:

- Theorem {lit}`parse_of_no_slash`: a text without a leading slash has no path.
-/

namespace DeviceConsole

/-- Why a text is no path. -/
inductive PathError where
  /-- The text does not begin with a slash. -/
  | missingLeadingSlash
  /-- The text names no level at all. -/
  | empty
  /-- A level is not a run of digits. -/
  | invalidLevel (segment : String)
  /-- A level is at or above the reserved value. -/
  | outOfRange (segment : String)
  /-- There are more than four levels. -/
  | tooManyLevels
deriving DecidableEq, Repr

/-- The message for a text that is no path. -/
def PathError.message : PathError → String
  | missingLeadingSlash => "resource path must start with '/'"
  | empty => "resource path names no object"
  | invalidLevel segment => "invalid path level '" ++ segment ++ "'"
  | outOfRange segment => "path level '" ++ segment ++ "' is out of range"
  | tooManyLevels => "resource path has more than four levels"

namespace Path

/-- The text without one slash at its end, when it has one. -/
def dropFinalSlash (text : List Char) : List Char :=
  if text.getLast? = some '/' then text.dropLast else text

/-- The value of one level. -/
def parseLevel (segment : List Char) : Except PathError UInt16 :=
  match Decimal.natural? segment with
  | none => .error (.invalidLevel (String.ofList segment))
  | some n =>
      if n < reserved.toNat then .ok (UInt16.ofNat n)
      else .error (.outOfRange (String.ofList segment))

/-- The values of the segments while at most {lit}`room` of them may follow. -/
def parseLevels : Nat → List (List Char) → Except PathError (List UInt16)
  | _, [] => .ok []
  | 0, _ :: _ => .error .tooManyLevels
  | room + 1, segment :: segments =>
      match parseLevel segment with
      | .error fault => .error fault
      | .ok level => (parseLevels room segments).map (level :: ·)

/-- The path that a text names. -/
def parse : List Char → Except PathError Path
  | '/' :: rooted =>
      let body := dropFinalSlash rooted
      if body.isEmpty then
        .error .empty
      else
        match parseLevels 4 (pieces '/' body) with
        | .error fault => .error fault
        | .ok levels =>
            match ofLevels? levels with
            | some path => .ok path
            | none => .error .tooManyLevels
  | _ => .error .missingLeadingSlash

/-- The path that a string names. -/
def ofString (text : String) : Except PathError Path :=
  parse text.toList

/-- A text without a leading slash has no path. -/
theorem parse_of_no_slash {text : List Char} (h : text.head? ≠ some '/') :
    parse text = .error .missingLeadingSlash := by
  unfold parse
  split
  · simp at h
  · rfl

end Path

end DeviceConsole
