import Courier.Cli.Plan
import Courier.Cli.Usage
import Courier.Host.Files
import Courier.Host.Sockets
import Courier.Server.Arrival
import Std.Async.Signal
import Std.Sync.Mutex

/-
  The program.

  It reads the files and the variables that it may look at,
  turns to a server if the arguments lead to one, and then
  does what the arguments say.  A server goes on until it is
  told to stop.

  Key definitions include:
    * `Program.surroundings`
    * `Program.serve`
    * `main`
-/

------------------------------------------------------------
-- Surroundings
------------------------------------------------------------

namespace Courier

namespace Program

open Cli Host

/- The variables that are set. -/
def environment : IO (List (String × String)) := do
  let found ← Config.environmentKeys.mapM fun name => do
    return (← IO.getEnv name).map fun value => (name, value)
  return found.filterMap id

/- What is at the path of a download. -/
def destination
    (loaded : Loaded)
    (path : String) : Destination :=
  .ofContent path (loaded.view path).toOption

/- The world with some files in it and nobody to talk to. -/
def worldOf
    (loaded : Loaded)
    (environment : List (String × String))
    (nonce : ByteArray) : World :=
  { site :=
      { files := loaded.view
        prepare := fun _ => .ok .empty }
    localFiles := fun path =>
      (loaded.view path).map fun bytes => .ofBytes bytes
    environment := environment
    network := .ofKnown .nothing
    destination := destination loaded
    nonce := nonce.toList }

/- What the program finds around it. -/
def surroundings
    (call : Invocation) : IO World := do
  let env ← environment
  let nonce ← IO.getRandomBytes 12
  let named ← readFiles call.paths
  let w := worldOf named env nonce
  let needed ← readFiles (settingPaths w call)
  let w := worldOf (named ++ needed) env nonce
  match contact? w call with
  | none => return w
  | some contact =>
      let known ← (reach contact).block
      return { w with network := .ofKnown known }

end Program

end Courier

------------------------------------------------------------
-- Reports
------------------------------------------------------------

namespace Courier

namespace Program

open Cli Host

/- Report a failure. -/
def fail
    (text : String) : IO UInt32 := do
  IO.eprintln s!"Error: {text}"
  return 1

/- Put a download into its place. -/
def settle
    (d : Destination) : IO (Option TransportError) := do
  match d.content with
  | none => return none
  | some content =>
      match ← attempt (replaceFile d.path content) with
      | .ok () => return none
      | .error e => return some (.localFile d.path e)

/- Show a report. -/
def conclude
    (r : Report) : IO UInt32 := do
  let unsettled ←
    match r.note, r.destination with
    | some _, some d => settle d
    | _, _ => pure none
  match unsettled, r.failure with
  | some e, _ => fail e.message
  | none, failure =>
      if let some note := r.note then IO.eprintln note
      r.lines.forM fun line => IO.println line
      match failure with
      | some f => fail f.message
      | none => return 0

end Program

end Courier

------------------------------------------------------------
-- Serving
------------------------------------------------------------

namespace Courier

namespace Program

open Host Std.Async

/-
  A server that is running: where its files are, and what it
  has noted.
-/
structure Running where
  config : Config
  root : Option String
  server : Server
  buffer : LogBuffer

/- Note an event, also for those who watch the program. -/
def Running.note
    (r : Running)
    (message : String) : IO Running := do
  let now ← Std.Time.Timestamp.now
  let time := now.toMillisecondsSinceUnixEpoch.toInt.toNat
  let event : LogEvent :=
    { level := .info
      target := "cmdlink"
      message := message
      fields := [] }
  let record := event.toRecord (UInt64.ofNat time)
  IO.eprintln record.render
  let buffer := r.buffer.push record
  let server := Backend.withRecords r.config buffer r.server
  return { r with buffer := buffer, server := server }

/- Let the server do something, and keep what it changes. -/
def Running.change
    {α : Type}
    (shared : Std.Mutex Running)
    (action : Server → α × Server) : IO α :=
  shared.atomically do
    let r ← get
    let (result, server) := action r.server
    if let some root := r.root then
      let tree (s : Server) :=
        (s.store.map Store.tree).getD []
      let kept ←
        attempt (writeStore root (tree r.server) (tree server))
      if let .error e := kept then
        IO.eprintln s!"Error: {e.message}"
    set { r with server := server }
    return result

/- Serve a connection that carries a command. -/
def serveCommand
    (shared : Std.Mutex Running)
    (s : Server)
    (socket : TCP.Socket.Client) : Async Unit := do
  let (got, rest) ← arrivals socket s.readTimeout s.wanted
  let answer ←
    Running.change shared fun s =>
      let x := s.handle (.data got :: rest) .endless
      (x.writer.written, x.server)
  say socket answer

/- Serve a connection that carries a request over HTTP. -/
def serveRequest
    (shared : Std.Mutex Running)
    (s : Server)
    (t : Tunnel)
    (socket : TCP.Socket.Client) : Async Unit := do
  let (got, _) ←
    arrivals socket s.readTimeout
      (Http.wanted (Tunnel.maxBody + 1))
  if let some q := Tunnel.Request.ofBytes? got then
    let answer ←
      Running.change shared fun s =>
        let (p, s') := s.serve t q
        (p.toBytes, s')
    say socket answer

/-
  Take connections, each served beside the others, until the
  server is told to stop or the program is.
-/
partial def acceptAll
    (shared : Std.Mutex Running)
    (signals : List (AsyncTask Int))
    (doors :
      List (TCP.Socket.Server ×
        (TCP.Socket.Client → Async Unit))) : Async Unit := do
  for (door, serve) in doors do
    if let some socket ← door.tryAccept then
      background do
        try
          serve socket
        catch e =>
          IO.eprintln s!"Error: {e}"
  if ← signals.anyM fun t => IO.hasFinished t then
    Running.change shared fun s => ((), s.trigger)
  let r ← shared.atomically get
  if r.server.isStopping then return ()
  sleep (span 5)
  acceptAll shared signals doors

/- The signals that tell a program to stop. -/
def stopSignals : IO (List (AsyncTask Int)) :=
  [Signal.sigterm, Signal.sigint].mapM fun signal => do
    (← Signal.Waiter.mk signal false).wait

/- Listen at an address, or say why that is not possible. -/
def openDoor
    (host : String)
    (port : UInt16)
    (encrypted : Bool) :
    IO (Except TransportError TCP.Socket.Server) := do
  let name := TransportError.endpoint host port
  if encrypted then
    return .error (.tls (.handshake name noTls))
  match ← listen host port with
  | .ok door => return .ok door
  | .error e => return .error (.bind name e)

/- The doors of a server: its own, and that to its endpoint. -/
def openDoors
    (shared : Std.Mutex Running)
    (c : Config)
    (b : Backend) :
    ExceptT TransportError IO
      (List (TCP.Socket.Server ×
        (TCP.Socket.Client → Async Unit))) := do
  let main ← ExceptT.mk (openDoor c.host c.adminPort c.tls.enabled)
  let own := (main, serveCommand shared b.server)
  match b.tunnel with
  | none => return [own]
  | some t =>
      let door ← ExceptT.mk (openDoor c.host c.webPort c.https)
      return [own, (door, serveRequest shared b.server t)]

/- Serve until the server is told to stop. -/
def serve
    (c : Config)
    (b : Backend) : IO UInt32 := do
  let root := b.server.store.map fun _ => c.fileServer.location
  let store ← root.mapM readStore
  let running : Running :=
    { config := c
      root := root
      server := { b.server with store := store }
      buffer := .ofCapacity c.logBufferCapacity.toNat }
  let shared ← Std.Mutex.new running
  match ← (openDoors shared c b).run with
  | .error e => fail e.message
  | .ok doors =>
      let name := TransportError.endpoint c.host c.adminPort
      shared.atomically do
        set (← (← get).note s!"Admin socket listening on {name}")
      (acceptAll shared (← stopSignals) doors).block
      shared.atomically do
        set (← (← get).note "Server stopped")
      return 0

end Program

end Courier

------------------------------------------------------------
-- The Program
------------------------------------------------------------

open Courier Courier.Cli Courier.Program in
/- Do what the arguments say. -/
def main
    (arguments : List String) : IO UInt32 := do
  let w ← surroundings (.ofArguments arguments)
  match run w arguments with
  | .done report => conclude report
  | .serving c backend => serve c backend
  | .help =>
      IO.println usage
      return 0
  | .misuse =>
      IO.eprintln usage
      return 2
