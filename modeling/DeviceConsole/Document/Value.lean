import DeviceConsole.Document.Number
import DeviceConsole.Document.Text

/-!
# Values of documents

A value is a scalar, an array, or a table.  A table that is written in braces is closed: it
holds what stands between the braces and nothing can be added to it.  All other tables are
put together from lines, and how a table came about decides what may be added.

Main results:

- Theorem {lit}`insert_eq_none_iff`: a key is given a value at most once.
-/

namespace DeviceConsole.Document

/-- How a table came about. -/
inductive TableForm where
  /-- It was passed through on the way to a table below it. -/
  | implied
  /-- It was passed through by a dotted key. -/
  | dotted
  /-- It has a header of its own, or is the document itself. -/
  | declared
deriving DecidableEq, Repr

/-- A value of a document. -/
inductive Value where
  | text (value : String)
  | integer (value : Int)
  /-- A floating-point number, and whether it is finite. -/
  | float (isFinite : Bool)
  | boolean (value : Bool)
  | moment
  | array (items : List Value)
  /-- A closed table. -/
  | closed (entries : List (String × Value))
  /-- A table that is put together from lines. -/
  | table (form : TableForm) (entries : List (String × Value))
  /-- Tables under one repeated header. -/
  | tables (items : List (List (String × Value)))

/-- The entries of a table, in the order in which they were added. -/
abbrev Entries :=
  List (String × Value)

namespace Entries

/-- The value of a key. -/
def get? (entries : Entries) (key : String) : Option Value :=
  (entries.find? (·.1 == key)).map (·.2)

/-- The entries with the value of a key replaced, or added behind the others. -/
def put (entries : Entries) (key : String) (value : Value) : Entries :=
  match entries with
  | [] => [(key, value)]
  | entry :: rest => if entry.1 = key then (key, value) :: rest else entry :: put rest key value

/-- Changes the value of a key, when the change allows it. -/
def alter (entries : Entries) (key : String) (change : Option Value → Option Value) :
    Option Entries :=
  (change (entries.get? key)).map fun value => entries.put key value

/-- Gives a key its value. -/
def insert (entries : Entries) (key : String) (value : Value) : Option Entries :=
  entries.alter key fun
    | none => some value
    | some _ => none

/-- A key is given a value at most once. -/
theorem insert_eq_none_iff (entries : Entries) (key : String) (value : Value) :
    entries.insert key value = none ↔ (entries.get? key).isSome := by
  unfold insert alter
  cases entries.get? key <;> simp

/-- A key that was put has its value. -/
@[simp]
theorem get?_put_self (entries : Entries) (key : String) (value : Value) :
    (entries.put key value).get? key = some value := by
  induction entries with
  | nil => simp [put, get?]
  | cons entry rest ih =>
      unfold put
      split
      · simp [get?]
      · rename_i different
        have other : (entry.1 == key) = false := by simpa using different
        simpa [get?, List.find?_cons, other] using ih

/-- The other keys keep theirs. -/
theorem get?_put_of_ne (entries : Entries) {key other : String} (value : Value)
    (h : other ≠ key) : (entries.put key value).get? other = entries.get? other := by
  have different : (key == other) = false := by simpa using h.symm
  induction entries with
  | nil => simp [put, get?, different]
  | cons entry rest ih =>
      unfold put
      split
      · rename_i same
        subst same
        simp [get?, different]
      · simp only [get?, List.find?_cons] at ih ⊢
        cases entry.1 == other with
        | true => rfl
        | false => exact ih

/-- Goes down to the table at a path and changes it there.  A part of the path that is not
there yet comes about on the way.  A dotted key does not reach into a table that has its own
header. -/
def descend (dotted : Bool) (change : TableForm → Entries → Option Entries) :
    List String → TableForm → Entries → Option Entries
  | [], form, entries => change form entries
  | key :: path, _, entries =>
      entries.alter key fun
        | none =>
            let form := if dotted then .dotted else .implied
            (descend dotted change path form []).map (.table form)
        | some (.table form below) =>
            if dotted ∧ form = .declared then none
            else (descend dotted change path form below).map (.table form)
        | some (.tables items) =>
            match items.getLast? with
            | some last =>
                (descend dotted change path .declared last).map fun last =>
                  .tables (items.dropLast ++ [last])
            | none => none
        | some _ => none

/-- Gives a dotted key its value.  The table that the value goes into came about by a dotted
key too, unless the key has one part only. -/
def assign (path : List String) (key : String) (value : Value) (form : TableForm)
    (entries : Entries) : Option Entries :=
  descend true
    (fun form entries =>
      if form = .dotted ↔ path.isEmpty then none else entries.insert key value)
    path form entries

/-- Gives a table its header. -/
def declare (key : String) (entries : Entries) : Option Entries :=
  entries.alter key fun
    | none => some (.table .declared [])
    | some (.table .implied below) => some (.table .declared below)
    | some _ => none

/-- Adds one more table under a repeated header. -/
def declareNext (key : String) (entries : Entries) : Option Entries :=
  entries.alter key fun
    | none => some (.tables [[]])
    | some (.tables items) => some (.tables (items ++ [[]]))
    | some _ => none

end Entries

end DeviceConsole.Document
