import DeviceConsole.Address.Parser

/-!
# Settings

The console has six settings.  Each may be left open, and then has a default.

Main results:

- Theorem {lit}`validate_eq_ok_iff`: the two things that a loaded configuration can still
  have wrong.
-/

namespace DeviceConsole

/-! ## Named options -/

/-- The IP family of the wildcard address that is used when no host is set. -/
inductive AddressFamily where
  | ipv6
  | ipv4
deriving DecidableEq, Repr

/-- The form in which log records are written. -/
inductive LogFormat where
  | json
  | compact
deriving DecidableEq, Repr

/-- The text with its ASCII capitals made small. -/
def lowerAscii (text : String) : String :=
  String.ofList (text.toList.map Char.toLower)

namespace AddressFamily

/-- The family's name. -/
def name : AddressFamily → String
  | ipv6 => "ipv6"
  | ipv4 => "ipv4"

/-- The family with exactly the given name. -/
def ofName? (text : String) : Option AddressFamily :=
  [ipv6, ipv4].find? (·.name == text)

/-- The family with the given name in any case. -/
def ofAnyCase? (text : String) : Option AddressFamily :=
  ofName? (lowerAscii text)

/-- The family's wildcard address. -/
def unspecified : AddressFamily → IpAddress
  | ipv6 => .v6 Ipv6.unspecified
  | ipv4 => .v4 ⟨0, 0, 0, 0⟩

@[simp]
theorem ofName?_name (family : AddressFamily) : ofName? family.name = some family := by
  cases family <;> decide +kernel

end AddressFamily

namespace LogFormat

/-- The format's name. -/
def name : LogFormat → String
  | json => "json"
  | compact => "compact"

/-- The format as a log record identifies it. -/
def identifier : LogFormat → String
  | json => "Json"
  | compact => "Compact"

/-- The format with exactly the given name. -/
def ofName? (text : String) : Option LogFormat :=
  [json, compact].find? (·.name == text)

/-- The format with the given name in any case. -/
def ofAnyCase? (text : String) : Option LogFormat :=
  ofName? (lowerAscii text)

@[simp]
theorem ofName?_name (format : LogFormat) : ofName? format.name = some format := by
  cases format <;> decide +kernel

end LogFormat

/-! ## The six settings -/

/-- The settings, each of which may be open. -/
structure Settings where
  listenHost : Option String
  listenPort : Option UInt16
  addressFamily : Option AddressFamily
  blockSize : Option UInt16
  logFilter : Option String
  logFormat : Option LogFormat
deriving DecidableEq, Repr

/-- What a loaded configuration can have wrong. -/
inductive SettingsFault where
  /-- The block size is none of the allowed ones. -/
  | unsupportedBlockSize (size : UInt16)
  /-- The listen host is no address. -/
  | invalidHost (host : String)
deriving DecidableEq, Repr

namespace Settings

/-- Settings that are all open. -/
def empty : Settings :=
  ⟨none, none, none, none, none, none⟩

instance : Inhabited Settings :=
  ⟨empty⟩

/-! ## Defaults -/

/-- The port that is used unless another is set. -/
def defaultPort : UInt16 :=
  5683

/-- The block size that is used unless another is set. -/
def defaultBlockSize : UInt16 :=
  1024

/-- The block sizes that are allowed. -/
def allowedBlockSizes : List UInt16 :=
  [16, 32, 64, 128, 256, 512, 1024]

/-- The log filter that is used unless another is set. -/
def defaultLogFilter : String :=
  "info"

/-- The address family that is used unless another is set. -/
def defaultFamily : AddressFamily :=
  .ipv6

/-- The log format that is used unless another is set. -/
def defaultLogFormat : LogFormat :=
  .compact

/-- The port in effect. -/
def port (settings : Settings) : UInt16 :=
  settings.listenPort.getD defaultPort

/-- The address family in effect. -/
def family (settings : Settings) : AddressFamily :=
  settings.addressFamily.getD defaultFamily

/-- The block size in effect. -/
def block (settings : Settings) : UInt16 :=
  settings.blockSize.getD defaultBlockSize

/-- The log filter in effect. -/
def filterText (settings : Settings) : String :=
  settings.logFilter.getD defaultLogFilter

/-- The log format in effect. -/
def format (settings : Settings) : LogFormat :=
  settings.logFormat.getD defaultLogFormat

/-! ## Checks -/

/-- A host without the opening brackets in front and the closing brackets at its end. -/
def stripBrackets (host : List Char) : List Char :=
  ((host.dropWhile (· == '[')).reverse.dropWhile (· == ']')).reverse

/-- The address to listen at. -/
def listenAddress (settings : Settings) : Except SettingsFault SocketAddress :=
  match settings.listenHost with
  | none => .ok (.ofIp settings.family.unspecified settings.port)
  | some host =>
      match IpAddress.parse? (stripBrackets host.toList) with
      | some address => .ok (.ofIp address settings.port)
      | none => .error (.invalidHost host)

/-- Checks the block size. -/
def checkBlockSize (settings : Settings) : Except SettingsFault Unit :=
  if settings.block ∈ allowedBlockSizes then .ok ()
  else .error (.unsupportedBlockSize settings.block)

/-- Checks what reading the layers cannot check: first the block size, then the host. -/
def validate (settings : Settings) : Except SettingsFault Unit := do
  settings.checkBlockSize
  let _ ← settings.listenAddress
  return ()

/-- A configuration is valid when its block size is allowed and it has an address. -/
theorem validate_eq_ok_iff (settings : Settings) :
    settings.validate = .ok () ↔
      settings.block ∈ allowedBlockSizes ∧ ∃ address, settings.listenAddress = .ok address := by
  by_cases allowed : settings.block ∈ allowedBlockSizes <;>
    cases found : settings.listenAddress <;>
      simp [validate, checkBlockSize, allowed, found, bind, Except.bind, pure, Except.pure]

end Settings

/-- The message for a configuration that has something wrong. -/
def SettingsFault.message : SettingsFault → String
  | unsupportedBlockSize size =>
      "unsupported block size " ++ toString size.toNat ++ "; expected one of " ++
        ", ".intercalate (Settings.allowedBlockSizes.map fun allowed => toString allowed.toNat)
  | invalidHost host => "listen host '" ++ host ++ "' is not an IP address"

end DeviceConsole
