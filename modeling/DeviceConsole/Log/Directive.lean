import DeviceConsole.Binary64
import DeviceConsole.Log.Record
import DeviceConsole.Pattern.Check
import DeviceConsole.Text.ByteCut

/-!
# Log directives

A directive sets a bound on the severity of the records that it is about: all of them, or
those of a target, or those that carry certain fields.

Main results:

- Definition {lit}`Directive.parse`: the directive that a text stands for.
- Definition {lit}`Directive.isAbout`: the records that a directive is about.
-/

namespace DeviceConsole

/-- Why a text is no log filter. -/
inductive FilterFault where
  /-- A directive is malformed. -/
  | directive
  /-- A directive names no severity where one belongs. -/
  | level
  /-- The value of a field cannot be used as a pattern. -/
  | field (fault : PatternFault)
deriving DecidableEq, Repr

/-- The fault's message. -/
def FilterFault.message : FilterFault → String
  | directive => "invalid filter directive"
  | level =>
      "error parsing level filter: expected one of \"off\", \"error\", \"warn\", \"info\", " ++
        "\"debug\", \"trace\", or a number 0-5"
  | field fault => "invalid field filter: " ++ fault.message

/-- A bound on the severity of records; without a level none are kept. -/
structure LevelBound where
  level : Option Level
deriving DecidableEq, Repr

namespace LevelBound

/-- The bound that keeps nothing. -/
def off : LevelBound :=
  ⟨none⟩

/-- The bound that keeps everything. -/
def everything : LevelBound :=
  ⟨some .trace⟩

/-- The bound that keeps errors only. -/
def errors : LevelBound :=
  ⟨some .error⟩

/-- Whether the bound keeps a severity. -/
def admits (bound : LevelBound) (level : Level) : Bool :=
  bound.level.any (·.admits level)

/-- The bounds in the order of their numbers, the strictest first. -/
def all : List LevelBound :=
  off :: Level.all.map fun level => ⟨some level⟩

/-- The bound with a number, which may have a plus sign. -/
def ofNumber? (text : List Char) : Option LevelBound :=
  match Decimal.natural? (if text.head? = some '+' then text.tail else text) with
  | some n => all[n]?
  | none => none

/-- The bound with a name in any case. -/
def ofName? (text : List Char) : Option LevelBound :=
  if lowerAscii (String.ofList text) = "off" then some off
  else (Level.ofName? (String.ofList text)).map fun level => ⟨some level⟩

/-- The bound that a number or a name stands for. -/
def parse? (text : List Char) : Option LevelBound :=
  (ofNumber? text).or (ofName? text)

end LevelBound

/-! ## Directives -/

/-- A field that a directive asks for, and whether it also asks for a certain value. -/
structure FieldPattern where
  name : String
  hasValue : Bool
deriving DecidableEq, Repr

/-- Whether a value is compared as it is: a truth value, a number, or the name of a number that
is none. -/
def isPlainValue (value : List Char) : Bool :=
  let name := lowerAscii (String.ofList (Binary64.splitSign value).2)
  ["true", "false"].contains (String.ofList value) || (Binary64.decimal? value).isSome ||
    ["inf", "infinity", "nan"].contains name

/-- The field that a text stands for: a name, or a name and a value.  A value that is not
compared as it is must be a pattern.  A second equals sign ends the value. -/
def FieldPattern.ofText (text : List Char) : Except FilterFault FieldPattern :=
  match pieces '=' text with
  | name :: value :: _ =>
      let field : FieldPattern := ⟨String.ofList name, true⟩
      if isPlainValue value then .ok field
      else
        match Pattern.fault? value with
        | some fault => .error (.field fault)
        | none => .ok field
  | _ => .ok ⟨String.ofList text, false⟩

/-- A directive: what it is about and the bound that it sets.  A directive about the inside
of a span is about no record, because records are told outside of all spans. -/
structure Directive where
  target : Option String
  span : Option String
  fields : List FieldPattern
  bound : LevelBound
deriving DecidableEq, Repr

namespace Directive

/-- The directive about everything that keeps everything. -/
def widest : Directive :=
  ⟨none, none, [], .everything⟩

/-- The directive that sets a bound for every record. -/
def overall (bound : LevelBound) : Directive :=
  { widest with bound }

/-- Where the reading of a directive stands, and at which byte the part begins that is not
complete yet. -/
inductive Place where
  | start
  | levelOrTarget (first : Nat)
  | span (first : Nat)
  | field (first : Nat)
  | afterFields
  | afterSpan
  | level (first : Nat)

/-- Whether a directive may begin with a character other than an opening bracket. -/
def mayBegin (c : Char) : Bool :=
  c = '-' || c = ':' || c = '_' || Alphabet.isAlphanumeric c

/-- A directive with one more field. -/
def withField (directive : Directive) (text : List Char) : Except FilterFault Directive :=
  if text.isEmpty then .error .directive
  else do
    let field ← FieldPattern.ofText text
    return { directive with fields := directive.fields ++ [field] }

/-- Takes one more character of a directive, which begins at the byte {lit}`here`.  The parts
that it completes are cut out of the text {lit}`written`. -/
def advance (directive : Directive) (written : List Char) (place : Place) (here : Nat)
    (c : Char) : Except FilterFault (Directive × Place) :=
  let next := here + c.utf8Size
  let part (first : Nat) : String := String.ofList (sliceBytes first here written)
  match place with
  | .start =>
      if c = '[' then .ok (directive, .span next)
      else if mayBegin c then .ok (directive, .levelOrTarget here)
      else .error .directive
  | .levelOrTarget first =>
      if c = '=' then .ok ({ directive with target := some (part first) }, .level next)
      else if c = '[' then .ok ({ directive with target := some (part first) }, .span next)
      else .ok (directive, place)
  | .span first =>
      if c = ']' then .ok ({ directive with span := some (part first) }, .afterSpan)
      else if c = '\x7b' then
        let span := if (part first).isEmpty then none else some (part first)
        .ok ({ directive with span }, .field next)
      else .ok (directive, place)
  | .field first =>
      if c = '\x7d' then do
        return (← directive.withField (part first).toList, .afterFields)
      else .ok (directive, place)
  | .afterFields => if c = ']' then .ok (directive, .afterSpan) else .error .directive
  | .afterSpan => if c = '=' then .ok (directive, .level next) else .error .directive
  | .level _ => .ok (directive, place)

/-- The directive at the end of the scan.  A part that is not complete runs to the end of the
text {lit}`written`. -/
def finish (directive : Directive) (written : List Char) : Place → Except FilterFault Directive
  | .levelOrTarget first =>
      let text := dropBytes first written
      match LevelBound.parse? text with
      | some bound => .ok { directive with bound }
      | none => .ok { directive with target := some (String.ofList text) }
  | .level first =>
      let text := dropBytes first written
      if text.isEmpty then .ok directive
      else
        match LevelBound.parse? text with
        | some bound => .ok { directive with bound }
        | none => .error .level
  | .afterSpan => .ok directive
  | _ => .error .directive

/-- Scans the rest of a directive, which begins at the byte {lit}`here`. -/
def scan (directive : Directive) (written : List Char) (place : Place) (here : Nat) :
    List Char → Except FilterFault Directive
  | [] => directive.finish written place
  | c :: rest => do
      let (directive, place) ← directive.advance written place here c
      directive.scan written place (here + c.utf8Size) rest

/-- The directive that a text stands for.  It is scanned without the blanks around it, but its
parts are cut out of the text as it was written, at the byte places of the scan: blanks in
front shift every part by their length, and blanks at the end belong to the last part. -/
def parse (written : List Char) : Except FilterFault Directive :=
  widest.scan written .start 0 (trim written)

/-- Without blanks around it a directive is cut where it is scanned; blanks in front become part
of a target, and then a level is none. -/
example :
    (parse "a=info".toList).toOption.map (·.target) = some (some "a") ∧
      (parse " info".toList).toOption.map (·.target) = some (some " info") ∧
      (parse " a=info".toList).toOption = none ∧ (parse "   ".toList).toOption = none := by
  decide +kernel

/-- Whether the directive is about a record. -/
def isAbout (directive : Directive) (record : LogRecord) : Bool :=
  directive.span.isNone &&
    directive.target.all (fun target => record.component.target.startsWith target) &&
    directive.fields.all fun field =>
      !field.hasValue && (field.name == "message" || record.fields.any (·.1 == field.name))

/-- The names of the fields that the directive asks for. -/
def fieldNames (directive : Directive) : List String :=
  directive.fields.map (·.name)

/-- How long the directive's target is; none at all is less than an empty one. -/
def targetRank (directive : Directive) : Nat :=
  directive.target.elim 0 fun target => target.utf8ByteSize + 1

/-- Whether a directive is at least as specific as another: a longer target counts first,
then the number of fields, then their names. -/
def atLeastAsSpecific (left right : Directive) : Bool :=
  right.targetRank < left.targetRank ||
    right.targetRank == left.targetRank &&
      (right.fields.length < left.fields.length ||
        right.fields.length == left.fields.length &&
          !decide (left.fieldNames < right.fieldNames))

end Directive

end DeviceConsole
