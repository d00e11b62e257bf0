import DeviceConsole.Text.Decimal

/-!
# Response statuses

A status is one byte: the upper three bits hold a class, the lower five a detail.  The
codes that have a name are constructors of their own; any byte can also stand for itself.

Main results:

- Theorem {lit}`code_ofCode`: every byte is the code of the status it decodes to.
- Theorem {lit}`ofCode_code`: decoding gives back each named status.
-/

namespace DeviceConsole

/-- The status of a submitted or completed request. -/
inductive Status where
  | created
  | deleted
  | valid
  | changed
  | content
  | continuation
  | badRequest
  | unauthorized
  | badOption
  | forbidden
  | notFound
  | methodNotAllowed
  | notAcceptable
  | requestEntityIncomplete
  | preconditionFailed
  | requestEntityTooLarge
  | unsupportedContentFormat
  | internalServerError
  | notImplemented
  | badGateway
  | serviceUnavailable
  | gatewayTimeout
  | proxyingNotSupported
  /-- A code taken as it is, without a name. -/
  | other (code : UInt8)
deriving DecidableEq, Repr

namespace Status

/-- The status's byte. -/
def code : Status → UInt8
  | created => 0x41
  | deleted => 0x42
  | valid => 0x43
  | changed => 0x44
  | content => 0x45
  | continuation => 0x5F
  | badRequest => 0x80
  | unauthorized => 0x81
  | badOption => 0x82
  | forbidden => 0x83
  | notFound => 0x84
  | methodNotAllowed => 0x85
  | notAcceptable => 0x86
  | requestEntityIncomplete => 0x88
  | preconditionFailed => 0x8C
  | requestEntityTooLarge => 0x8D
  | unsupportedContentFormat => 0x8F
  | internalServerError => 0xA0
  | notImplemented => 0xA1
  | badGateway => 0xA2
  | serviceUnavailable => 0xA3
  | gatewayTimeout => 0xA4
  | proxyingNotSupported => 0xA5
  | other code => code

/-- The statuses that have a name. -/
def named : List Status :=
  [created, deleted, valid, changed, content, continuation, badRequest, unauthorized, badOption,
   forbidden, notFound, methodNotAllowed, notAcceptable, requestEntityIncomplete,
   preconditionFailed, requestEntityTooLarge, unsupportedContentFormat, internalServerError,
   notImplemented, badGateway, serviceUnavailable, gatewayTimeout, proxyingNotSupported]

/-- The status that a byte decodes to: the named one when there is one. -/
def ofCode (code : UInt8) : Status :=
  (named.find? fun status => status.code == code).getD (other code)

/-- The class digit. -/
def category (status : Status) : UInt8 :=
  status.code >>> 5

/-- The detail number. -/
def detail (status : Status) : UInt8 :=
  status.code &&& 0x1F

/-- Whether the status reports success. -/
def isSuccess (status : Status) : Bool :=
  status.category == 2

/-- The name that the console shows. -/
def name : Status → String
  | created => "Created"
  | deleted => "Deleted"
  | valid => "Valid"
  | changed => "Changed"
  | content => "Content"
  | continuation => "Continue"
  | badRequest => "Bad Request"
  | unauthorized => "Unauthorized"
  | badOption => "Bad Option"
  | forbidden => "Forbidden"
  | notFound => "Not Found"
  | methodNotAllowed => "Method Not Allowed"
  | notAcceptable => "Not Acceptable"
  | requestEntityIncomplete => "Request Entity Incomplete"
  | preconditionFailed => "Precondition Failed"
  | requestEntityTooLarge => "Request Entity Too Large"
  | unsupportedContentFormat => "Unsupported Content-Format"
  | internalServerError => "Internal Server Error"
  | notImplemented => "Not Implemented"
  | badGateway => "Bad Gateway"
  | serviceUnavailable => "Service Unavailable"
  | gatewayTimeout => "Gateway Timeout"
  | proxyingNotSupported => "Proxying Not Supported"
  | other _ => "Unknown"

/-- The status as a log record identifies it. -/
def identifier : Status → String
  | created => "Created"
  | deleted => "Deleted"
  | valid => "Valid"
  | changed => "Changed"
  | content => "Content"
  | continuation => "Continue"
  | badRequest => "BadRequest"
  | unauthorized => "Unauthorized"
  | badOption => "BadOption"
  | forbidden => "Forbidden"
  | notFound => "NotFound"
  | methodNotAllowed => "MethodNotAllowed"
  | notAcceptable => "NotAcceptable"
  | requestEntityIncomplete => "RequestEntityIncomplete"
  | preconditionFailed => "PreconditionFailed"
  | requestEntityTooLarge => "RequestEntityTooLarge"
  | unsupportedContentFormat => "UnsupportedContentFormat"
  | internalServerError => "InternalServerError"
  | notImplemented => "NotImplemented"
  | badGateway => "BadGateway"
  | serviceUnavailable => "ServiceUnavailable"
  | gatewayTimeout => "GatewayTimeout"
  | proxyingNotSupported => "ProxyingNotSupported"
  | other code => "Other(" ++ toString code.toNat ++ ")"

/-- A status as it is printed: class, two-digit detail and name. -/
def text (status : Status) : String :=
  toString status.category.toNat ++ "." ++ Decimal.padded 2 status.detail.toNat ++
    " (" ++ status.name ++ ")"

instance : ToString Status :=
  ⟨text⟩

/-- Decoding gives back each named status. -/
theorem ofCode_code {status : Status} (h : status ∈ named) : ofCode status.code = status := by
  revert status
  decide

/-- Every byte is the code of the status it decodes to. -/
theorem code_ofCode (byte : UInt8) : (ofCode byte).code = byte := by
  unfold ofCode
  cases found : named.find? fun status => status.code == byte with
  | none => rfl
  | some status => simpa using List.find?_some found

end Status

end DeviceConsole
