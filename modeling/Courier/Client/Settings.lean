import Courier.Settings.Validation
import Courier.Tls.Setup

/-
  What a client needs to know to reach its server, drawn up
  once from a configuration.

  A command goes over a socket, or over HTTP if its mode or
  the settings say so.  Commands for the server itself go
  over HTTP only if the settings want that for all commands.

  Key definitions include:
    * `Route`
    * `Route.select`
    * `ClientSettings`
    * `ClientSettings.ofConfig`
    * `ClientSettings.stamp`
    * `ClientSettings.timeLimit`
    * `ClientSettings.tunnelUrl`
-/

------------------------------------------------------------
-- Routes
------------------------------------------------------------

namespace Courier

/- The way that a command takes. -/
inductive Route where
| socket : Route
| tunnel : Route
deriving DecidableEq, Repr

/- The way for a command. -/
def Route.select
    (c : Command)
    (webOverride : Bool) : Route :=
  if webOverride then
    .tunnel
  else if !c.isInternal && c.mode == .web &&
      !c.forceSockets then
    .tunnel
  else
    .socket

/- The time that a command may take, in milliseconds. -/
def timeLimitOf
    (c : Command)
    (clientTimeoutSecs : Option UInt64) : UInt64 :=
  match clientTimeoutSecs with
  | some seconds => millis seconds
  | none =>
      if c.timeoutMs = 0 then Command.defaultTimeoutMs
      else c.timeoutMs

end Courier

------------------------------------------------------------
-- Settings
------------------------------------------------------------

namespace Courier

/-
  What a client needs to know to reach its server.  With
  trust it encrypts what it sends over sockets.
-/
structure ClientSettings where
  serverName : String
  host : String
  adminPort : UInt16
  webPort : UInt16
  mode : Mode
  defaultTimeoutMs : UInt64
  clientTimeoutSecs : Option UInt64
  webOverride : Bool
  maxMessageSize : UInt64
  bufferSize : UInt64
  trust : Option Tls.Trust
  https : Bool
  webAnchors : List Tls.Certificate
  endpoint : String
  keyName : String
  key : String
deriving DecidableEq, Repr

namespace ClientSettings

/- What is trusted over HTTP, besides what always is. -/
def webAnchorsOf
    (c : Config)
    (files : FileView) :
    Except ConfigError (List Tls.Certificate) :=
  if c.https then
    match Tls.anchorText c.tls files with
    | .error e => .error (.transport (.tls e))
    | .ok text =>
        match Tls.certificates text with
        | .error .noCertificates => .ok []
        | .error _ => .error (.tls noWebClient)
        | .ok found =>
            match Tls.anchors found with
            | .ok anchors => .ok anchors
            | .error _ => .error (.tls noWebClient)
  else
    .ok []
where
  noWebClient : String :=
    "cannot build HTTP client: builder error"

/- The settings of a configuration. -/
def ofConfig
    (c : Config)
    (files : FileView) : Except ConfigError ClientSettings :=
  match Tls.clientSetup? c.tls files with
  | .error e => .error (.transport (.tls e))
  | .ok trust =>
      match webAnchorsOf c files with
      | .error e => .error e
      | .ok webAnchors =>
          match c.apiKey with
          | .error e => .error (.invalid (.secret e))
          | .ok key =>
              .ok
                { serverName := c.serverName
                  host := c.host
                  adminPort := c.adminPort
                  webPort := c.webPort
                  mode := c.mode
                  defaultTimeoutMs := c.defaultTimeoutMs
                  clientTimeoutSecs := c.clientTimeoutSecs
                  webOverride := c.webOverride
                  maxMessageSize := c.maxMessageSize
                  bufferSize := c.fileServer.bufferSize
                  trust := trust
                  https := c.https
                  webAnchors := webAnchors
                  endpoint := c.tunnel.endpoint
                  keyName := c.tunnel.apiKeyName
                  key := key }

/- The checked settings of a configuration. -/
def ofValid
    (c : Config)
    (files : FileView) : Except ConfigError ClientSettings :=
  match c.validate files with
  | .error e => .error e
  | .ok () => ofConfig c files

end ClientSettings

end Courier

------------------------------------------------------------
-- Commands
------------------------------------------------------------

namespace Courier

namespace ClientSettings

/-
  Fill in what a command leaves open.  The mode is filled in
  together with the host.
-/
def stamp
    (s : ClientSettings)
    (c : Command) : Command :=
  { c with
    serverName :=
      if c.serverName.isEmpty then s.serverName
      else c.serverName
    host := if c.host.isEmpty then s.host else c.host
    mode := if c.host.isEmpty then s.mode else c.mode
    port := if c.port = 0 then s.adminPort else c.port
    timeoutMs :=
      if c.timeoutMs = 0 then s.defaultTimeoutMs
      else c.timeoutMs }

/- The time that a command may take, in milliseconds. -/
def timeLimit
    (s : ClientSettings)
    (c : Command) : Nat :=
  (timeLimitOf c s.clientTimeoutSecs).toNat

/- The way for a command. -/
def route
    (s : ClientSettings)
    (c : Command) : Route :=
  .select c s.webOverride

/- The port that a command goes to. -/
def portOf
    (s : ClientSettings)
    (c : Command) : Route → UInt16
  | .socket => c.port
  | .tunnel => s.webPort

/- The address of the endpoint on a host. -/
def tunnelUrl
    (s : ClientSettings)
    (host : String) : String :=
  let scheme := if s.https then "https" else "http"
  s!"{scheme}://{host}:{s.webPort.toNat}/{s.endpoint}"

end ClientSettings

end Courier
