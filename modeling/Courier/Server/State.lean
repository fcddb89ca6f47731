import Courier.Dispatch.Registry
import Courier.Server.Shutdown
import Courier.Storage.Store

/-
  A server, and what it does with commands that come without
  a stream of bytes.

  A command for another server is refused.  Commands with
  the internal id are carried out here, all others by their
  dispatchers.

  Key definitions include:
    * `Server`
    * `Server.isStopping`
    * `Server.wrongServer?`
    * `Server.deleteFile`
    * `Server.process`
-/

------------------------------------------------------------
-- Servers
------------------------------------------------------------

namespace Courier

/-
  A server.  Without a store it takes and hands out no
  files.  Times are in milliseconds.
-/
structure Server where
  name : String
  registry : Registry
  store : Option Store
  signals : StopSignals
  stop : StopSignals.Handle
  uploads : TemporaryFiles
  maxMessageSize : Nat
  bufferSize : Nat
  readTimeout : Nat

namespace Server

/- A server with a stop signal that is its own. -/
def make
    (name : String)
    (registry : Registry)
    (store : Option Store)
    (maxMessageSize bufferSize readTimeout : Nat) :
    Server :=
  let (stop, signals) := StopSignals.empty.create
  { name := name
    registry := registry
    store := store
    signals := signals
    stop := stop
    uploads := .empty
    maxMessageSize := maxMessageSize
    bufferSize := bufferSize
    readTimeout := readTimeout }

/- The server was told to stop. -/
def isStopping
    (s : Server) : Bool :=
  s.signals.isTriggered s.stop

/- Tell the server to stop. -/
def trigger
    (s : Server) : Server :=
  { s with signals := s.signals.trigger s.stop }

end Server

end Courier

------------------------------------------------------------
-- Refusals
------------------------------------------------------------

namespace Courier

namespace Server

/- The answer to a command for another server. -/
def wrongServer?
    (s : Server)
    (c : Command) : Option Answer :=
  if c.serverName = "" ∨ c.serverName = s.name then
    none
  else
    some
      (.error .wrongServer
        s!"command addressed to {c.serverName}")

/- There are no files here. -/
def noFiles : Answer :=
  .fileNok .fileServerDisabled "file server is disabled"

/- There is no such file. -/
def noSuchFile
    (fileId : String) : Answer :=
  .fileNok .notFound s!"file {fileId} not found"

/- A file could not be stored, found or deleted. -/
def storageFailure
    (text : String) : Answer :=
  .fileNok .storage text

end Server

end Courier

------------------------------------------------------------
-- Commands
------------------------------------------------------------

namespace Courier

namespace Server

/- Delete a stored file. -/
def deleteFile
    (s : Server)
    (c : Command) : Answer × Server :=
  match s.store with
  | none => (noFiles, s)
  | some files =>
      let d := Delete.ofCommand c
      let (deleted, files') := files.delete d.fileId d.domain
      let s' := { s with store := some files' }
      match deleted with
      | .ok true => (.fileOk d.fileId, s')
      | .ok false => (noSuchFile d.fileId, s')
      | .error e => (storageFailure e.message, s')

/-
  Carry out a command of the link itself.  The commands that
  come with files are refused, because there is no stream
  here to carry a file.
-/
def processInternal
    (s : Server)
    (c : Command) : Answer × Server :=
  if c.name = Command.stopVerb then
    (.stop, s.trigger)
  else if c.name = Command.healthVerb then
    (.health, s)
  else if c.name = Command.deleteVerb then
    s.deleteFile c
  else if c.name = Command.uploadVerb ∨
      c.name = Command.downloadVerb then
    (.fileNok .malformed
      s!"{c.name} needs the socket transport", s)
  else
    (.error .malformed s!"unknown internal command {c.name}",
      s)

/- Carry out a command that has no stream of bytes. -/
def process
    (s : Server)
    (c : Command) : Answer × Server :=
  match s.wrongServer? c with
  | some refusal => (refusal, s)
  | none =>
      if c.isInternal then s.processInternal c
      else (s.registry.dispatch c, s)

end Server

end Courier
