import Courier.Json.Value
import Courier.Settings.Config
import Courier.Settings.Value

/-
  Configurations as values of a file, and as JSON.

  What a file does not mention keeps its default.  Members
  that no setting has are ignored.

  Key definitions include:
    * `Value.ofJson`
    * `Config.ofValue?`
    * `Config.toJson`
-/

------------------------------------------------------------
-- Values of JSON
------------------------------------------------------------

namespace Courier

namespace Value

mutual

/- The value that JSON spells. -/
def ofJson : Json → Value
  | .null => .null
  | .bool b => .flag b
  | .number (.whole n) => .number (.exact n)
  | .number (.binary _) => .number .fraction
  | .text s => .text s
  | .array items => .list (ofJsons items)
  | .object members => .table (ofJsonMembers members)

/- The values of items. -/
def ofJsons : List Json → List Value
  | [] => []
  | item :: rest => ofJson item :: ofJsons rest

/- The values of members. -/
def ofJsonMembers :
    List (String × Json) → List (String × Value)
  | [] => []
  | (name, item) :: rest =>
      (name, ofJson item) :: ofJsonMembers rest

end

/- A port. -/
def port?
    (v : Value) : Option UInt16 :=
  (v.natural? 65535).map UInt16.ofNat

/- A number of 64 bits without a sign. -/
def word?
    (v : Value) : Option UInt64 :=
  (v.natural? (UInt64.size - 1)).map UInt64.ofNat

/- The way that commands take. -/
def mode?
    (rigor : Rigor)
    (v : Value) : Option Mode :=
  match v.choice? rigor with
  | some "sockets" => some .sockets
  | some "web" => some .web
  | _ => none

end Value

end Courier

------------------------------------------------------------
-- Reading
------------------------------------------------------------

namespace Courier

/- The names of the settings for encryption. -/
def TlsSettings.names : List String :=
  ["enabled", "certPath", "keyPath", "caPath", "protocols"]

/- The settings for encryption in a value. -/
def TlsSettings.ofValue?
    (rigor : Rigor)
    (v : Value) : Option TlsSettings := do
  let d := TlsSettings.default
  let path := Value.option? Value.text?
  guard (v.othersAllowed rigor names)
  let enabled ← v.field? "enabled" 0 Value.flag? d.enabled
  let certPath ← v.field? "certPath" 1 path d.certPath
  let keyPath ← v.field? "keyPath" 2 path d.keyPath
  let caPath ← v.field? "caPath" 3 path d.caPath
  let protocols ←
    v.field? "protocols" 4 Value.texts? d.protocols
  return { enabled, certPath, keyPath, caPath, protocols }

/- The names of the settings of the endpoint. -/
def TunnelSettings.names : List String :=
  ["enabled", "endpoint", "apiKeyName", "apiKey",
    "apiKeyEncoded"]

/- The settings of the endpoint in a value. -/
def TunnelSettings.ofValue?
    (rigor : Rigor)
    (v : Value) : Option TunnelSettings := do
  let d := TunnelSettings.default
  guard (v.othersAllowed rigor names)
  let enabled ← v.field? "enabled" 0 Value.flag? d.enabled
  let endpoint ← v.field? "endpoint" 1 Value.text? d.endpoint
  let apiKeyName ←
    v.field? "apiKeyName" 2 Value.text? d.apiKeyName
  let apiKey ← v.field? "apiKey" 3 Value.text? d.apiKey
  let apiKeyEncoded ←
    v.field? "apiKeyEncoded" 4 Value.flag? d.apiKeyEncoded
  return { enabled, endpoint, apiKeyName, apiKey, apiKeyEncoded }

/- The names of the settings for files. -/
def FileServerSettings.names : List String :=
  ["enabled", "storage", "location", "bufferSizeKb"]

/- The settings for files in a value. -/
def FileServerSettings.ofValue?
    (rigor : Rigor)
    (v : Value) : Option FileServerSettings := do
  let d := FileServerSettings.default
  guard (v.othersAllowed rigor names)
  let enabled ← v.field? "enabled" 0 Value.flag? d.enabled
  let storage ← v.field? "storage" 1 Value.text? d.storage
  let location ← v.field? "location" 2 Value.text? d.location
  let bufferSizeKb ←
    v.field? "bufferSizeKb" 3 Value.word? d.bufferSizeKb
  return { enabled, storage, location, bufferSizeKb }

namespace Config

/- The names of all settings. -/
def names : List String :=
  ["serverName", "host", "adminPort", "webPort", "mode",
    "webOverride", "connectionTimeoutSecs",
    "clientTimeoutSecs", "serverTimeoutSecs",
    "maxMessageSize", "tls", "https", "tunnel", "secretKey",
    "dispatchers", "fileServer", "logBufferCapacity"]

/- The configuration in a value. -/
def ofValue?
    (rigor : Rigor)
    (v : Value) : Option Config := do
  let d := default
  guard (v.othersAllowed rigor names)
  let serverName ←
    v.field? "serverName" 0 Value.text? d.serverName
  let host ← v.field? "host" 1 Value.text? d.host
  let adminPort ←
    v.field? "adminPort" 2 Value.port? d.adminPort
  let webPort ← v.field? "webPort" 3 Value.port? d.webPort
  let mode ← v.field? "mode" 4 (Value.mode? rigor) d.mode
  let webOverride ←
    v.field? "webOverride" 5 Value.flag? d.webOverride
  let connectionTimeoutSecs ←
    v.field? "connectionTimeoutSecs" 6 Value.word?
      d.connectionTimeoutSecs
  let clientTimeoutSecs ←
    v.field? "clientTimeoutSecs" 7 (Value.option? Value.word?)
      d.clientTimeoutSecs
  let serverTimeoutSecs ←
    v.field? "serverTimeoutSecs" 8 Value.word?
      d.serverTimeoutSecs
  let maxMessageSize ←
    v.field? "maxMessageSize" 9 Value.word? d.maxMessageSize
  let tls ←
    v.field? "tls" 10 (TlsSettings.ofValue? rigor) d.tls
  let https ← v.field? "https" 11 Value.flag? d.https
  let tunnel ←
    v.field? "tunnel" 12 (TunnelSettings.ofValue? rigor)
      d.tunnel
  let secretKey ←
    v.field? "secretKey" 13 Value.text? d.secretKey
  let dispatchers ←
    v.field? "dispatchers" 14 Value.texts? d.dispatchers
  let fileServer ←
    v.field? "fileServer" 15
      (FileServerSettings.ofValue? rigor) d.fileServer
  let logBufferCapacity ←
    v.field? "logBufferCapacity" 16 Value.word?
      d.logBufferCapacity
  return {
    serverName, host, adminPort, webPort, mode, webOverride
    connectionTimeoutSecs, clientTimeoutSecs
    serverTimeoutSecs, maxMessageSize, tls, https, tunnel
    secretKey, dispatchers, fileServer, logBufferCapacity }

end Config

end Courier

------------------------------------------------------------
-- Writing
------------------------------------------------------------

namespace Courier

namespace Json

/- A text, or null. -/
def optionalText
    (text : Option String) : Json :=
  (text.map Json.text).getD .null

/- A list of texts. -/
def texts
    (all : List String) : Json :=
  .array (all.map .text)

/- A word as a number. -/
def ofWord
    (n : UInt64) : Json :=
  Json.ofNat n.toNat

end Json

/- The settings for encryption as JSON. -/
def TlsSettings.toJson
    (s : TlsSettings) : Json :=
  .object
    [("enabled", .bool s.enabled),
      ("certPath", Json.optionalText s.certPath),
      ("keyPath", Json.optionalText s.keyPath),
      ("caPath", Json.optionalText s.caPath),
      ("protocols", Json.texts s.protocols)]

/- The settings of the endpoint as JSON. -/
def TunnelSettings.toJson
    (s : TunnelSettings) : Json :=
  .object
    [("enabled", .bool s.enabled),
      ("endpoint", .text s.endpoint),
      ("apiKeyName", .text s.apiKeyName),
      ("apiKey", .text s.apiKey),
      ("apiKeyEncoded", .bool s.apiKeyEncoded)]

/- The settings for files as JSON. -/
def FileServerSettings.toJson
    (s : FileServerSettings) : Json :=
  .object
    [("enabled", .bool s.enabled),
      ("storage", .text s.storage),
      ("location", .text s.location),
      ("bufferSizeKb", Json.ofWord s.bufferSizeKb)]

namespace Config

/- The members of a configuration that are shown. -/
def members
    (c : Config) : List (String × Json) :=
  [("serverName", .text c.serverName),
    ("host", .text c.host),
    ("adminPort", Json.ofNat c.adminPort.toNat),
    ("webPort", Json.ofNat c.webPort.toNat),
    ("mode", .text
      (if c.mode = .web then "web" else "sockets")),
    ("webOverride", .bool c.webOverride),
    ("connectionTimeoutSecs",
      Json.ofWord c.connectionTimeoutSecs),
    ("clientTimeoutSecs",
      (c.clientTimeoutSecs.map Json.ofWord).getD .null),
    ("serverTimeoutSecs", Json.ofWord c.serverTimeoutSecs),
    ("maxMessageSize", Json.ofWord c.maxMessageSize),
    ("tls", c.tls.toJson),
    ("https", .bool c.https),
    ("tunnel", c.tunnel.toJson),
    ("dispatchers", Json.texts c.dispatchers),
    ("fileServer", c.fileServer.toJson),
    ("logBufferCapacity", Json.ofWord c.logBufferCapacity)]

/- A configuration as JSON, without the secret. -/
def toJson
    (c : Config) : Json :=
  .object c.members

end Config

end Courier
