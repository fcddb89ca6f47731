import Courier.Envelope.Command
import Courier.Stream.Frame

/-
  The settings of both ends of a link.

  Key definitions include:
    * `TlsSettings`
    * `TunnelSettings`
    * `FileServerSettings`
    * `FileServerSettings.bufferSize`
    * `Config`
    * `Config.default`
    * `Config.defaultTimeoutMs`
    * `Config.newCommand`
-/

------------------------------------------------------------
-- Parts
------------------------------------------------------------

namespace Courier

/- Certificates and keys, and the versions that may be used. -/
structure TlsSettings where
  enabled : Bool
  certPath : Option String
  keyPath : Option String
  caPath : Option String
  protocols : List String
deriving DecidableEq, Repr

/- Connections that are not encrypted. -/
def TlsSettings.default : TlsSettings :=
  { enabled := false
    certPath := none
    keyPath := none
    caPath := none
    protocols := [] }

/- The endpoint for commands over HTTP, and the key to it. -/
structure TunnelSettings where
  enabled : Bool
  endpoint : String
  apiKeyName : String
  apiKey : String
  apiKeyEncoded : Bool
deriving DecidableEq, Repr

/- No endpoint. -/
def TunnelSettings.default : TunnelSettings :=
  { enabled := false
    endpoint := "srvcmd"
    apiKeyName := "apiKey"
    apiKey := ""
    apiKeyEncoded := false }

/- Where files are stored, and how they are sent. -/
structure FileServerSettings where
  enabled : Bool
  storage : String
  location : String
  bufferSizeKb : UInt64
deriving DecidableEq, Repr

namespace FileServerSettings

/- Files are stored below the current directory. -/
def default : FileServerSettings :=
  { enabled := true
    storage := "filesystem"
    location := "files"
    bufferSizeKb := 32 }

/-
  The number of bytes that are copied at once, in the word
  size of the machine.
-/
def bufferSize
    (s : FileServerSettings) : UInt64 :=
  (if s.bufferSizeKb = 0 then 1 else s.bufferSizeKb) * 1024

end FileServerSettings

end Courier

------------------------------------------------------------
-- Configurations
------------------------------------------------------------

namespace Courier

/- The settings of both ends of a link. -/
structure Config where
  serverName : String
  host : String
  adminPort : UInt16
  webPort : UInt16
  mode : Mode
  webOverride : Bool
  connectionTimeoutSecs : UInt64
  clientTimeoutSecs : Option UInt64
  serverTimeoutSecs : UInt64
  maxMessageSize : UInt64
  tls : TlsSettings
  https : Bool
  tunnel : TunnelSettings
  secretKey : String
  dispatchers : List String
  fileServer : FileServerSettings
  logBufferCapacity : UInt64
deriving DecidableEq, Repr

/- Milliseconds of a number of seconds, or the most. -/
def millis
    (seconds : UInt64) : UInt64 :=
  UInt64.ofNat (min (seconds.toNat * 1000) (UInt64.size - 1))

namespace Config

/- The settings that hold if nothing else is said. -/
def default : Config :=
  { serverName := "cmdlink"
    host := "localhost"
    adminPort := 9777
    webPort := 8080
    mode := .sockets
    webOverride := false
    connectionTimeoutSecs := 5
    clientTimeoutSecs := none
    serverTimeoutSecs := 30
    maxMessageSize := UInt64.ofNat Frame.defaultMaxSize
    tls := .default
    https := false
    tunnel := .default
    secretKey := ""
    dispatchers := ["log"]
    fileServer := .default
    logBufferCapacity := 1000 }

/- The time limit of a command that sets none. -/
def defaultTimeoutMs
    (c : Config) : UInt64 :=
  millis c.connectionTimeoutSecs

/- A command for the server of the configuration. -/
def newCommand
    (c : Config)
    (dispatcherId name : String) : Command :=
  { Command.make dispatcherId name with
    serverName := c.serverName
    host := c.host
    port := c.adminPort
    mode := c.mode
    timeoutMs := c.defaultTimeoutMs }

end Config

end Courier
