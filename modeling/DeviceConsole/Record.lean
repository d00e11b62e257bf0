import DeviceConsole.Binary64

/-!
# Data records

Structured payloads are lists of records: an identifier and a value, where the value may
itself be the list of records of one object instance.

Main results:

- Definition {lit}`objectInstance`: the record that has the records of an object instance.
- Definition {lit}`Payload`: what a request carries.
-/

namespace DeviceConsole

mutual

/-- The value of a record. -/
inductive Record.Value where
  | integer (value : Int64)
  | float (value : Binary64)
  | boolean (value : Bool)
  | string (value : String)
  | bytes (value : List UInt8)
  /-- The records of one object instance. -/
  | records (records : List Record)

/-- One identified value. -/
inductive Record where
  | mk (id : UInt16) (value : Record.Value)

end

namespace Record

/-- The identifier of the resource or instance that the record describes. -/
def id : Record → UInt16
  | mk id _ => id

/-- The record's value. -/
def value : Record → Value
  | mk _ value => value

/-- The records of one object instance as a single record. -/
def objectInstance (inst : UInt16) (records : List Record) : Record :=
  mk inst (.records records)

end Record

/-- What a write sends. -/
inductive Payload where
  /-- The operator's text as it was typed. -/
  | text (text : String)
  /-- Structured records. -/
  | records (records : List Record)

end DeviceConsole
