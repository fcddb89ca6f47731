import Courier.Dispatch.LogQuery
import Courier.Server.Tunnel
import Courier.Settings.Validation

/-
  Starting a server with the dispatchers and the storage
  that its configuration names.

  The dispatchers are looked up first, then the directory of
  the storage is prepared, and the configuration is checked
  last.

  Key definitions include:
    * `Site`
    * `Backend`
    * `Startup`
    * `Backend.start`
-/

------------------------------------------------------------
-- Backends
------------------------------------------------------------

namespace Courier

/-
  The place where a server is started: the files there, the
  store at a path, and the directories that are made to have
  it.  These are the missing ones among the path and those
  above it; there may be some even if the store cannot be
  had.  If nothing else is said, the path alone is missing.
-/
structure Site where
  files : FileView
  prepare : String → Except IoError Store
  created : String → List String :=
    fun path => if (prepare path).toBool then [path] else []

/- A server, with an endpoint if it has one. -/
structure Backend where
  server : Server
  tunnel : Option Tunnel

/-
  The end of a start, and the paths at which a directory was
  made on the way there.
-/
structure Startup where
  outcome : Except ConfigError Backend
  prepared : List String

namespace Backend

/- The kind of storage that there is. -/
def storageName : String := "filesystem"

/- The endpoint of a configuration, with the opened key. -/
def tunnelOf
    (c : Config)
    (key : String) : Option Tunnel :=
  if c.tunnel.enabled then
    some
      { endpoint := c.tunnel.endpoint
        keyName := c.tunnel.apiKeyName
        key := key }
  else
    none

/- A server with a registry and a store that are there. -/
def make
    (c : Config)
    (files : FileView)
    (registry : Registry)
    (store : Option Store) : Except ConfigError Backend :=
  match c.validate files with
  | .error e => .error e
  | .ok () =>
      match c.apiKey with
      | .error e => .error (.invalid (.secret e))
      | .ok key =>
          .ok
            { server :=
                .make c.serverName registry store
                  c.maxMessageSize.toNat
                  c.fileServer.bufferSize.toNat
                  (c.serverTimeoutSecs.toNat * 1000)
              tunnel := tunnelOf c key }

end Backend

end Courier

------------------------------------------------------------
-- Starts
------------------------------------------------------------

namespace Courier

namespace Backend

/- Prepare the storage of a configuration, if it has one. -/
def storeOf
    (s : FileServerSettings)
    (site : Site) :
    Except ConfigError (Option Store) × List String :=
  if !s.enabled then
    (.ok none, [])
  else if s.storage ≠ storageName then
    (.error (.unknownStorage s.storage), [])
  else
    let created := site.created s.location
    match site.prepare s.location with
    | .error e =>
        (.error (.invalid (.location s.location e)), created)
    | .ok store => (.ok (some store), created)

/-
  A server that shows the records of a buffer, and is the
  same in all other respects.
-/
def withRecords
    (c : Config)
    (buffer : LogBuffer)
    (s : Server) : Server :=
  match Registry.ofNames (LogQuery.builtin buffer)
      c.dispatchers with
  | .ok registry => { s with registry := registry }
  | .error _ => s

/- Start the server of a configuration. -/
def start
    (c : Config)
    (buffer : LogBuffer)
    (site : Site) : Startup :=
  match Registry.ofNames (LogQuery.builtin buffer)
      c.dispatchers with
  | .error e => ⟨.error e, []⟩
  | .ok registry =>
      match storeOf c.fileServer site with
      | (.error e, prepared) => ⟨.error e, prepared⟩
      | (.ok store, prepared) =>
          ⟨make c site.files registry store, prepared⟩

end Backend

end Courier
