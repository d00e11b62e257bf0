/-!
# Media formats

A payload from a device comes with the number of its content format.  Four of the formats
are text; a payload in any other is shown byte by byte.

Main results:

- Theorem {lit}`code_ofCode`: every number is the code of the format it decodes to.
-/

namespace DeviceConsole

/-- The content format of a payload. -/
inductive MediaFormat where
  | text
  | linkFormat
  | opaqueBytes
  | cbor
  | senmlJson
  | senmlCbor
  | tlv
  | json
  /-- A number taken as it is, without a name. -/
  | other (code : UInt16)
deriving DecidableEq, Repr

namespace MediaFormat

/-- The format that a number decodes to: the named one when there is one. -/
def ofCode (code : UInt16) : MediaFormat :=
  if code = 0 then text
  else if code = 40 then linkFormat
  else if code = 42 then opaqueBytes
  else if code = 60 then cbor
  else if code = 110 then senmlJson
  else if code = 112 then senmlCbor
  else if code = 11542 then tlv
  else if code = 11543 then json
  else other code

/-- The format's number. -/
def code : MediaFormat → UInt16
  | text => 0
  | linkFormat => 40
  | opaqueBytes => 42
  | cbor => 60
  | senmlJson => 110
  | senmlCbor => 112
  | tlv => 11542
  | json => 11543
  | other code => code

/-- Whether payloads in the format are printed as text. -/
def isTextual : MediaFormat → Bool
  | text | linkFormat | senmlJson | json => true
  | _ => false

/-- Every number is the code of the format it decodes to. -/
theorem code_ofCode (number : UInt16) : (ofCode number).code = number := by
  unfold ofCode
  repeat' split
  all_goals simp_all [code]

end MediaFormat

end DeviceConsole
