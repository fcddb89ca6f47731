import Courier.Client.Network

/-
  Sending one command, over a socket or over HTTP.

  Nobody waits for an answer to the command to stop.  A
  server that can be reached counts as alive, whatever it
  answers when it is asked.

  Key definitions include:
    * `Call`
    * `Wire.dial`
    * `Wire.receive`
    * `Wire.bySocket`
    * `Wire.request`
    * `Wire.byTunnel`
-/

------------------------------------------------------------
-- Calls
------------------------------------------------------------

namespace Courier

/- The end of a call, and the bytes that were sent for it. -/
structure Call (α : Type) where
  outcome : Except TransportError α
  sent : Bytes

namespace Wire

/- A server that can be reached is alive. -/
def healthOf
    {ε : Type} : Except ε Answer → Answer
  | .ok a => if a.status = .health then a else .health
  | .error _ => .health

end Wire

end Courier

------------------------------------------------------------
-- Sockets
------------------------------------------------------------

namespace Courier

namespace Wire

/- Connect to the server of a command and send the command. -/
def dial
    (net : Network)
    (s : ClientSettings)
    (c : Command) : Call Connection :=
  let limit := s.timeLimit c
  match net.connect c.host c.port s.trust limit with
  | .error fault => ⟨.error (fault.toError c.host c.port limit), []⟩
  | .ok k =>
      let written := Frame.writeCommand limit k.writer c
      let k' := { k with writer := written.writer }
      { outcome :=
          match written.outcome with
          | some (.ok ()) => .ok k'
          | some (.error e) =>
              .error (.ofProtocol c.host c.port limit e)
          | none => .error (.timeout c.host c.port limit)
        sent := k'.sent }

/- Receive an answer, and what arrives after it. -/
def receive
    (s : ClientSettings)
    (c : Command)
    (k : Connection) :
    Except TransportError (Answer × Stream.Reader) :=
  let limit := s.timeLimit c
  let got :=
    Frame.readAnswer s.maxMessageSize.toNat limit k.reader
  match got.outcome with
  | some (.ok a) => .ok (a, got.reader)
  | some (.error e) =>
      .error (.ofProtocol c.host c.port limit e)
  | none => .error (.timeout c.host c.port limit)

/- The answer that a client makes of what it receives. -/
def concluded
    (c : Command)
    (got : Except TransportError Answer) :
    Except TransportError Answer :=
  if c.isStop then .ok .stop
  else if c.isHealth then .ok (healthOf got)
  else got

/- Send a command over a socket. -/
def bySocket
    (net : Network)
    (s : ClientSettings)
    (c : Command) : Call Answer :=
  let dialed := dial net s c
  match dialed.outcome with
  | .error e => ⟨.error e, dialed.sent⟩
  | .ok k =>
      ⟨concluded c ((receive s c k).map Prod.fst), k.sent⟩

end Wire

end Courier

------------------------------------------------------------
-- HTTP
------------------------------------------------------------

namespace Courier

namespace Wire

/- The request that carries a command. -/
def request
    (s : ClientSettings)
    (c : Command) : Web.Request :=
  { url := s.tunnelUrl c.host
    query := [(s.keyName, s.key)]
    body := c.toJson
    limit := s.timeLimit c }

/- The answer in the text of a response. -/
def answerOf
    (c : Command)
    (s : ClientSettings)
    (p : Web.Response) : Except TransportError Answer :=
  match p.text with
  | .error fault =>
      .error
        (fault.toError c.host s.webPort (s.tunnelUrl c.host)
          (s.timeLimit c))
  | .ok text =>
      match Answer.ofJson text with
      | .ok a => .ok a
      | .error e => .error (.protocol e)

/- Send a command over HTTP. -/
def byTunnel
    (net : Network)
    (s : ClientSettings)
    (c : Command) : Except TransportError Answer :=
  let q := request s c
  match net.post q with
  | .error fault =>
      .error (fault.toError c.host s.webPort q.url q.limit)
  | .ok p =>
      if p.status = 200 ∨ p.status = 204 then
        concluded c (answerOf c s p)
      else
        .error (.httpStatus q.url p.status)

end Wire

end Courier
