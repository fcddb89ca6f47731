import Courier.Envelope.Error
import Courier.Tls.Error

/-
  Why a command got no answer.

  Key definitions include:
    * `TransportError`
    * `TransportError.message`
    * `TransportError.ofIo`
    * `TransportError.ofProtocol`
    * `TransportError.isUnreachable`
-/

------------------------------------------------------------
-- Errors
------------------------------------------------------------

namespace Courier

/- Why a command got no answer. -/
inductive TransportError where
| unresolvedHost :
    (host : String) → (port : UInt16) → IoError →
    TransportError
| connect :
    (host : String) → (port : UInt16) → IoError →
    TransportError
| timeout :
    (host : String) → (port : UInt16) → (limit : Nat) →
    TransportError
| io :
    (host : String) → (port : UInt16) → IoError →
    TransportError
| tls : TlsError → TransportError
| http : (url detail : String) → TransportError
| httpStatus : (url : String) → (status : Nat) → TransportError
| protocol : ProtocolError → TransportError
| localFile : (path : String) → IoError → TransportError
| bind : (address : String) → IoError → TransportError
deriving DecidableEq, Repr

namespace TransportError

/- A host with a port. -/
def endpoint
    (host : String)
    (port : UInt16) : String :=
  s!"{host}:{port.toNat}"

/- The text of an error. -/
def message : TransportError → String
  | .unresolvedHost host port e =>
      s!"Unknown host {endpoint host port}: {e.message}"
  | .connect host port e =>
      s!"Cannot connect to {endpoint host port}: {e.message}"
  | .timeout host port limit =>
      s!"Timeout talking to {endpoint host port} " ++
        s!"after {limit} ms"
  | .io host port e =>
      s!"I/O error talking to {endpoint host port}: {e.message}"
  | .tls e => s!"TLS error: {e.message}"
  | .http url detail => s!"HTTP error for {url}: {detail}"
  | .httpStatus url status => s!"HTTP status {status} from {url}"
  | .protocol e => s!"Protocol error: {e.message}"
  | .localFile path e => s!"Local file {path}: {e.message}"
  | .bind address e => s!"Cannot bind {address}: {e.message}"

/- The text of the error behind an error. -/
def source? : TransportError → Option String
  | .unresolvedHost _ _ e
  | .connect _ _ e
  | .io _ _ e
  | .localFile _ e
  | .bind _ e => some e.message
  | .protocol e => some e.message
  | .timeout ..
  | .tls _
  | .http ..
  | .httpStatus .. => none

/- The server was not reached or said nothing in time. -/
def isUnreachable : TransportError → Bool
  | .unresolvedHost .. | .connect .. | .timeout .. => true
  | _ => false

/- A failure of the connection to a server. -/
def ofIo
    (host : String)
    (port : UInt16)
    (limit : Nat)
    (e : IoError) : TransportError :=
  if e.kind = .timedOut then .timeout host port limit
  else .io host port e

/-
  A failure to exchange a message, where a failure of the
  connection counts as one.
-/
def ofProtocol
    (host : String)
    (port : UInt16)
    (limit : Nat) : ProtocolError → TransportError
  | .io e => ofIo host port limit e
  | e => .protocol e

end TransportError

end Courier
