import Courier.Client.Error

/-
  Why a configuration cannot be used.

  Key definitions include:
    * `SettingError`
    * `SecretError`
    * `Invalid`
    * `ConfigError`
    * `ConfigError.message`
-/

------------------------------------------------------------
-- Settings
------------------------------------------------------------

namespace Courier

/- Why a setting is refused. -/
inductive SettingError where
| zeroTimeout : SettingError
| longTimeout : (seconds : Nat) → SettingError
| emptyServerName : SettingError
| badServerName : (name : String) → SettingError
| smallMessageSize : (size : Nat) → SettingError
| largeMessageSize : (size : Nat) → SettingError
| emptyEndpoint : SettingError
| badEndpoint : (endpoint : String) → SettingError
| missingPath : (setting : String) → SettingError
| absentFile : (setting path : String) → SettingError
| badProtocol : (name : String) → SettingError
| described : (text : String) → SettingError
| describedPath : (text : String) → SettingError
deriving DecidableEq, Repr

namespace SettingError

/- The longest time limit, in seconds. -/
def maxTimeout : Nat := 3600

/- The smallest bound on messages, in octets. -/
def minMessageSize : Nat := 1024

/- The text of an error without its heading. -/
def detail : SettingError → String
  | .zeroTimeout => "Timeout must be greater than 0"
  | .longTimeout seconds =>
      s!"Timeout too large: {seconds} seconds " ++
        s!"(max {maxTimeout})"
  | .emptyServerName => "Server name must not be empty"
  | .badServerName name =>
      s!"Server name {Quoted.quote name} is not encodable"
  | .smallMessageSize size =>
      s!"maxMessageSize must be at least {minMessageSize} " ++
        s!"bytes, got {size}"
  | .largeMessageSize size =>
      "maxMessageSize does not fit the 4-byte length prefix: " ++
        toString size
  | .emptyEndpoint => "Tunnel endpoint must not be empty"
  | .badEndpoint endpoint =>
      s!"Tunnel endpoint {Quoted.quote endpoint} must be a " ++
        "bare path without leading slash or query"
  | .missingPath setting =>
      s!"tls.{setting} is required when TLS or HTTPS is enabled"
  | .absentFile setting path =>
      s!"tls.{setting} does not exist: {path}"
  | .badProtocol name =>
      s!"Unsupported TLS protocol {Quoted.quote name} " ++
        "(expected TLSv1.2 or TLSv1.3)"
  | .described text => text
  | .describedPath text => text

/- The error is about a path. -/
def isPath : SettingError → Bool
  | .absentFile .. | .describedPath _ => true
  | _ => false

/- The text of an error. -/
def message
    (e : SettingError) : String :=
  (if e.isPath then "Path validation error: "
    else "Config validation error: ") ++ e.detail

end SettingError

end Courier

------------------------------------------------------------
-- Secrets
------------------------------------------------------------

namespace Courier

/- Why a value could not be sealed or opened. -/
inductive SecretError where
| noKey : SecretError
| notBase64 : (detail : String) → SecretError
| tooShort : SecretError
| wrongKey : SecretError
| notUtf8 : SecretError
deriving DecidableEq, Repr

/- The text of an error. -/
def SecretError.message : SecretError → String
  | .noKey => "secretKey is required for encrypted values"
  | .notBase64 detail =>
      s!"encrypted value is not valid base64: {detail}"
  | .tooShort => "encrypted value is too short"
  | .wrongKey =>
      "cannot decrypt value: wrong secretKey or corrupted data"
  | .notUtf8 => "decrypted value is not UTF-8"

end Courier

------------------------------------------------------------
-- Configurations
------------------------------------------------------------

namespace Courier

/- What is wrong with the values of a configuration. -/
inductive Invalid where
| setting : SettingError → Invalid
| secret : SecretError → Invalid
| unparsed : (name value : String) → Invalid
| unknownMode : (name value : String) → Invalid
| location : (path : String) → IoError → Invalid
| described : (text : String) → Invalid
deriving DecidableEq, Repr

/- The text of what is wrong. -/
def Invalid.message : Invalid → String
  | .setting e => e.message
  | .secret e => e.message
  | .unparsed name value => s!"cannot parse {name}={value}"
  | .unknownMode name value => s!"{name}={value}"
  | .location path e =>
      s!"cannot prepare file storage at {path}: {e.message}"
  | .described text => text

/- Why a configuration cannot be used. -/
inductive ConfigError where
| unreadable : (path : String) → IoError → ConfigError
| unparsed : (path detail : String) → ConfigError
| invalid : Invalid → ConfigError
| transport : TransportError → ConfigError
| badAnchor : (detail : String) → ConfigError
| tls : (text : String) → ConfigError
| unknownDispatcher : (name : String) → ConfigError
| unknownStorage : (name : String) → ConfigError
deriving DecidableEq, Repr

/- The text of an error. -/
def ConfigError.message : ConfigError → String
  | .unreadable path e =>
      s!"Cannot read config {path}: {e.message}"
  | .unparsed path detail =>
      s!"Cannot parse config {path}: {detail}"
  | .invalid cause => s!"Invalid configuration: {cause.message}"
  | .transport e => s!"TLS configuration error: {e.message}"
  | .badAnchor detail =>
      "TLS configuration error: invalid CA certificate: " ++
        detail
  | .tls text => s!"TLS configuration error: {text}"
  | .unknownDispatcher name => s!"Unknown dispatcher: {name}"
  | .unknownStorage name => s!"Unknown file storage: {name}"

end Courier
