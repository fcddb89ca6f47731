import Courier.Client.Settings
import Courier.Http.Form

/-
  What a client can reach: servers behind sockets, and
  endpoints that take requests over HTTP.

  A connection is known by how it takes bytes and by what
  arrives once it has taken some.  A client first writes all
  that it has to say and reads afterwards.

  Key definitions include:
    * `Connection`
    * `Connection.Fault`
    * `Web.Request`
    * `Web.Response`
    * `Web.Fault`
    * `Network`
-/

------------------------------------------------------------
-- Connections
------------------------------------------------------------

namespace Courier

/-
  A connection to a server: how it takes bytes, and what
  arrives after it has taken some.
-/
structure Connection where
  writer : Stream.Writer
  reply : Bytes → Stream.Reader

namespace Connection

/- The bytes that were sent so far. -/
def sent
    (k : Connection) : Bytes :=
  k.writer.written

/- What arrives after the bytes that were sent. -/
def reader
    (k : Connection) : Stream.Reader :=
  k.reply k.sent

/- Why there is no connection. -/
inductive Fault where
| unresolved : IoError → Fault
| timedOut : Fault
| refused : IoError → Fault
| badName : (detail : String) → Fault
| handshake : (detail : String) → Fault
deriving DecidableEq, Repr

/- What a client reports for a fault. -/
def Fault.toError
    (host : String)
    (port : UInt16)
    (limit : Nat) : Fault → TransportError
  | .unresolved e => .unresolvedHost host port e
  | .timedOut => .timeout host port limit
  | .refused e => .connect host port e
  | .badName detail => .tls (.badServerName host detail)
  | .handshake detail =>
      .tls
        (.handshake (TransportError.endpoint host port) detail)

end Connection

end Courier

------------------------------------------------------------
-- Requests over HTTP
------------------------------------------------------------

namespace Courier

namespace Web

/- The name under which a client introduces itself. -/
def userAgent : String := "cmdlink-client"

/- The type of the body of a request. -/
def requestType : String := "application/json; charset=UTF-8"

/- The type of the body that a client hopes for. -/
def wantedType : String := "application/json"

/- A request to take a command. -/
structure Request where
  url : String
  query : List (String × String)
  body : String
  limit : Nat
deriving DecidableEq, Repr

/- Why there is no response, or no body in it. -/
inductive Fault where
| timedOut : Fault
| refused : IoError → Fault
| broken : (detail : String) → Fault
deriving DecidableEq, Repr

/- What a client reports for a fault. -/
def Fault.toError
    (host : String)
    (port : UInt16)
    (url : String)
    (limit : Nat) : Fault → TransportError
  | .timedOut => .timeout host port limit
  | .refused e => .connect host port e
  | .broken detail => .http url detail

/- A response, whose body may fail to arrive. -/
structure Response where
  status : Nat
  body : Except Fault Bytes

/- The text of a response, whatever its bytes are. -/
def Response.text
    (p : Response) : Except Fault String :=
  match p.body with
  | .ok bytes =>
      .ok (String.ofList (Utf8.decodeLossy bytes))
  | .error fault => .error fault

end Web

end Courier

------------------------------------------------------------
-- Networks
------------------------------------------------------------

namespace Courier

/-
  What a client can reach.  Connections are encrypted for
  those who trust somebody, and made within a limit.
-/
structure Network where
  connect :
    (host : String) → (port : UInt16) →
    (trust : Option Tls.Trust) → (limit : Nat) →
    Except Connection.Fault Connection
  post : Web.Request → Except Web.Fault Web.Response

end Courier
