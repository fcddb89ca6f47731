import Courier.Client.Communicator
import Courier.Client.Transfer
import Courier.Server.Connection
import Courier.Server.Tunnel

/-
  A client and a server that are joined by a network that
  loses nothing.

  The server sees the bytes of a call when the client has
  sent them all, and the client sees what the server makes
  of them.

  Key definitions include:
    * `Server.connection`
    * `Server.after`
    * `Server.network`
    * `Link`
    * `Link.send`
    * `Link.upload`
    * `Link.download`
    * `Link.delete`
-/

------------------------------------------------------------
-- Networks of One Server
------------------------------------------------------------

namespace Courier

namespace Server

/- What a server makes of the bytes of a connection. -/
def exchange
    (s : Server)
    (sent : Bytes) : Exchange :=
  s.handle (.ofBytes sent) .endless

/- A connection to a server. -/
def connection
    (s : Server) : Connection :=
  { writer := .endless
    reply := fun sent =>
      .ofBytes (s.exchange sent).writer.written }

/- The server after the bytes of a connection. -/
def after
    (s : Server)
    (sent : Bytes) : Server :=
  (s.exchange sent).server

/- The request that arrives at the endpoint of a server. -/
def webRequest
    (t : Tunnel)
    (q : Web.Request) : Tunnel.Request :=
  { method := "POST"
    target := s!"/{t.endpoint}?{Form.encode q.query}"
    body := Bytes.ofText q.body }

/- A network of a server and its endpoint. -/
def network
    (s : Server)
    (t : Option Tunnel) : Network :=
  { connect := fun _ _ _ _ => .ok s.connection
    post := fun q =>
      match t with
      | none => .error (.refused .notFound)
      | some t =>
          let p := (s.serve t (webRequest t q)).1
          .ok
            { status := p.status
              body := .ok (Bytes.ofText p.body) } }

end Server

end Courier

------------------------------------------------------------
-- Links
------------------------------------------------------------

namespace Courier

/-
  A client and the server that it talks to.  The server has
  an endpoint if a command is ever to go over HTTP.
-/
structure Link where
  settings : ClientSettings
  server : Server
  tunnel : Option Tunnel

namespace Link

/- What the client can reach. -/
def network
    (l : Link) : Network :=
  l.server.network l.tunnel

/- The link after a call over sockets. -/
def after
    {α : Type}
    (l : Link)
    (call : Call α) : Link :=
  { l with server := l.server.after call.sent }

/- The link after a request over HTTP. -/
def afterRequest
    (l : Link)
    (q : Web.Request) : Link :=
  match l.tunnel with
  | none => l
  | some t =>
      let served := l.server.serve t (Server.webRequest t q)
      { l with server := served.2 }

/- Send a command to the server. -/
def send
    (l : Link)
    (c : Command) : Except TransportError Answer × Link :=
  let c' := l.settings.stamp c
  (Communicator.send (.ofNetwork l.network) l.settings c,
    match l.settings.route c' with
    | .socket => l.after (Wire.bySocket l.network l.settings c')
    | .tunnel => l.afterRequest (Wire.request l.settings c'))

/- Send a local file to the server. -/
def upload
    (l : Link)
    (files : LocalFiles)
    (u : Upload) : Except TransportError Answer × Link :=
  let call := Transfer.upload l.network files l.settings u
  (call.outcome, l.after call)

/- Fetch a stored file. -/
def download
    (l : Link)
    (fileId : String)
    (domain : Option String)
    (d : Destination) :
    Except TransportError Answer × Destination × Link :=
  let (call, d') :=
    Transfer.download l.network l.settings fileId domain d
  (call.outcome, d', l.after call)

/- Delete a stored file. -/
def delete
    (l : Link)
    (d : Delete) : Except TransportError Answer × Link :=
  l.send d.toCommand

end Link

end Courier
