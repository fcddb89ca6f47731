import Courier.File.View
import Courier.Settings.Config
import Courier.Settings.Secret

/-
  The checks that a configuration has to pass.

  Key definitions include:
    * `Validation.timeout`
    * `Validation.serverName`
    * `Validation.messageSize`
    * `Validation.endpoint`
    * `Validation.tls`
    * `Config.apiKey`
    * `Config.validate`
-/

------------------------------------------------------------
-- Single Settings
------------------------------------------------------------

namespace Courier

namespace Validation

/- A time limit in seconds. -/
def timeout
    (seconds : Nat) : Except SettingError Unit :=
  if seconds = 0 then
    .error .zeroTimeout
  else if SettingError.maxTimeout < seconds then
    .error (.longTimeout seconds)
  else
    .ok ()

/- The name of a server. -/
def serverName
    (name : String) : Except SettingError Unit :=
  if name.isEmpty then
    .error .emptyServerName
  else if Line.hasSeparator name.toList ∨
      '\n' ∈ name.toList then
    .error (.badServerName name)
  else
    .ok ()

/- The bound on the size of a message. -/
def messageSize
    (size : Nat) : Except SettingError Unit :=
  if size < SettingError.minMessageSize then
    .error (.smallMessageSize size)
  else if Frame.maxLength < size then
    .error (.largeMessageSize size)
  else
    .ok ()

/- The path of the endpoint. -/
def endpoint
    (path : String) : Except SettingError Unit :=
  if path.isEmpty then
    .error .emptyEndpoint
  else if path.toList.head? = some '/' ∨ '?' ∈ path.toList ∨
      path.toList.any Blank.isBlank then
    .error (.badEndpoint path)
  else
    .ok ()

end Validation

end Courier

------------------------------------------------------------
-- Encryption
------------------------------------------------------------

namespace Courier

namespace Validation

/- A file that encryption needs. -/
def material
    (files : FileView)
    (setting : String)
    (path : Option String) : Except SettingError Unit :=
  match path with
  | none => .error (.missingPath setting)
  | some p =>
      if files.has p then .ok ()
      else .error (.absentFile setting p)

/- The versions that may be used. -/
def protocols : List String → Except SettingError Unit
  | [] => .ok ()
  | name :: rest =>
      if name = "TLSv1.2" ∨ name = "TLSv1.3" then
        protocols rest
      else
        .error (.badProtocol name)

/- The settings for encryption, if anything is encrypted. -/
def tls
    (files : FileView)
    (s : TlsSettings)
    (https : Bool) : Except SettingError Unit :=
  if s.enabled || https then do
    material files "certPath" s.certPath
    material files "keyPath" s.keyPath
    material files "caPath" s.caPath
    protocols s.protocols
  else
    .ok ()

end Validation

end Courier

------------------------------------------------------------
-- Configurations
------------------------------------------------------------

namespace Courier

namespace Config

/- The key of the endpoint, opened if it is sealed. -/
def apiKey
    (c : Config) : Except SecretError String :=
  if c.tunnel.apiKeyEncoded then
    Secret.decrypt c.tunnel.apiKey c.secretKey
  else
    .ok c.tunnel.apiKey

/- The checks of the settings, in their order. -/
def checkSettings
    (c : Config)
    (files : FileView) : Except SettingError Unit := do
  Validation.serverName c.serverName
  Validation.timeout c.connectionTimeoutSecs.toNat
  match c.clientTimeoutSecs with
  | some seconds => Validation.timeout seconds.toNat
  | none => .ok ()
  Validation.timeout c.serverTimeoutSecs.toNat
  Validation.messageSize c.maxMessageSize.toNat
  Validation.endpoint c.tunnel.endpoint
  Validation.tls files c.tls c.https

/- All checks that a configuration has to pass. -/
def validate
    (c : Config)
    (files : FileView) : Except ConfigError Unit :=
  match c.checkSettings files with
  | .error e => .error (.invalid (.setting e))
  | .ok () =>
      match c.apiKey with
      | .error e => .error (.invalid (.secret e))
      | .ok _ => .ok ()

end Config

end Courier
