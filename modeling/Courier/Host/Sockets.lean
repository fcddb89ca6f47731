import Courier.Client.Contact
import Courier.Host.Files
import Courier.Http.Message
import Std.Async.DNS
import Std.Async.TCP
import Std.Async.Timer

/-
  The connections of the machine that the program runs on.

  A client says all it has to say and collects what arrives;
  a server collects as much as it wants and says all it has
  to say.  What either makes of that is decided elsewhere.

  Key definitions include:
    * `Host.collect`
    * `Host.reach`
    * `Host.listen`
-/

------------------------------------------------------------
-- Time
------------------------------------------------------------

namespace Courier

namespace Host

open Std.Async

/- A span of time in milliseconds. -/
def span
    (limit : Nat) : Std.Time.Millisecond.Offset :=
  .ofNat limit

/- The result of an action that comes to its end in time. -/
def within
    {α : Type}
    (limit : Nat)
    (action : Async α) : Async (Option α) :=
  Async.race
    (do return some (← action))
    (do
      sleep (span limit)
      return none)

end Host

end Courier

------------------------------------------------------------
-- Arrivals
------------------------------------------------------------

namespace Courier

namespace Host

open Std.Async

/- The most octets that are taken from a connection at once. -/
def portion : UInt64 := 65536

/-
  Take octets from a connection until there are as many as
  are wanted, nothing more comes, or one of the waits takes
  too long.
-/
partial def collect
    (socket : TCP.Socket.Client)
    (limit : Nat)
    (wanted : Bytes → Nat)
    (need : Nat)
    (got : ByteArray) : Async (Bytes × Stream.Reader) := do
  if got.size < need then
    match ← within limit (socket.recv? portion) with
    | none => return (got.toList, [.stall])
    | some none => return (got.toList, [])
    | some (some chunk) =>
        collect socket limit wanted need (got ++ chunk)
  else
    let more := wanted got.toList
    if more ≤ got.size then return (got.toList, [])
    else collect socket limit wanted more got

/- Take octets, where a failure is what arrives last. -/
def arrivals
    (socket : TCP.Socket.Client)
    (limit : Nat)
    (wanted : Bytes → Nat) : Async (Bytes × Stream.Reader) := do
  try
    collect socket limit wanted 1 .empty
  catch e =>
    return ([], [.fail (ioError e)])

/- More octets than ever come. -/
def everything : Nat := UInt64.size

/- Say something and nothing more. -/
def say
    (socket : TCP.Socket.Client)
    (bytes : Bytes) : Async Unit := do
  socket.send ⟨bytes.toArray⟩
  socket.shutdown

end Host

end Courier

------------------------------------------------------------
-- Addresses
------------------------------------------------------------

namespace Courier

namespace Host

open Std.Async Std.Net

/- An address with a port. -/
def withPort
    (port : UInt16) : IPAddr → SocketAddress
  | .v4 address => .v4 ⟨address, port⟩
  | .v6 address => .v6 ⟨address, port⟩

/- The first address of a host. -/
def address
    (host : String)
    (port : UInt16) : Async (Except IoError SocketAddress) := do
  try
    let found ← DNS.getAddrInfo host (toString port)
    match found[0]? with
    | some a => return .ok (withPort port a)
    | none => return .error .notFound
  catch e =>
    return .error (ioError e)

/- Take connections at an address. -/
def listen
    (host : String)
    (port : UInt16) :
    IO (Except IoError TCP.Socket.Server) := do
  match ← (address host port).block with
  | .error e => return .error e
  | .ok a =>
      attempt do
        let server ← TCP.Socket.Server.mk
        server.bind a
        server.listen 128
        return server

end Host

end Courier

------------------------------------------------------------
-- Calls
------------------------------------------------------------

namespace Courier

namespace Host

open Std.Async

/- Connect to a host. -/
def dial
    (host : String)
    (port : UInt16)
    (limit : Nat) :
    Async (Except Connection.Fault TCP.Socket.Client) := do
  match ← address host port with
  | .error e => return .error (.unresolved e)
  | .ok a =>
      let socket ← TCP.Socket.Client.mk
      try
        match ← within limit (socket.connect a) with
        | some () => return .ok socket
        | none => return .error .timedOut
      catch e =>
        return .error (.refused (ioError e))

/- What this program can say of encrypted connections. -/
def noTls : String :=
  "encrypted connections are not available"

/- What came of a connection that was refused, over HTTP. -/
def webFault : Connection.Fault → Web.Fault
  | .unresolved e | .refused e => .refused e
  | .timedOut => .timedOut
  | .badName detail | .handshake detail => .broken detail

/- What came of a request over HTTP. -/
def ask
    (host : String)
    (port : UInt16)
    (limit : Nat)
    (request : Bytes) : Async Network.Known := do
  match ← dial host port limit with
  | .error fault => return .unanswered (webFault fault)
  | .ok socket =>
      say socket request
      let (got, rest) ←
        arrivals socket limit fun _ => everything
      match Web.Response.ofBytes? got with
      | some p => return .answered p
      | none =>
          if rest = [.stall] then return .unanswered .timedOut
          else return .unanswered (.broken "no response")

/- What came of a contact. -/
def reach : Contact → Async Network.Known
  | .socket host port trust limit sent => do
      if trust.isSome then
        return .unreached (.handshake noTls)
      match ← dial host port limit with
      | .error fault => return .unreached fault
      | .ok socket =>
          try
            say socket sent
            let (got, rest) ←
              arrivals socket limit fun _ => everything
            return .arrived (.data got :: rest)
          catch e =>
            return .arrived [.fail (ioError e)]
  | .web host port https endpoint q => do
      if https then return .unanswered (.broken noTls)
      ask host port q.limit
        (q.toBytes host port endpoint)

end Host

end Courier
