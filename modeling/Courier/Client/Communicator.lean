import Courier.Client.Wire
import Courier.File.Download

/-
  A client: settings, and what it does with commands.

  All settings of a call are those that hold when it begins.
  New settings are drawn up and checked as a whole before
  they replace the old ones.

  Key definitions include:
    * `Wires`
    * `Wires.ofNetwork`
    * `Communicator.send`
    * `Communicator.stop`
    * `Communicator.health`
    * `Communicator.delete`
    * `Communicator.reload`
-/

------------------------------------------------------------
-- Wires
------------------------------------------------------------

namespace Courier

/- The two ways that commands may take. -/
structure Wires where
  socket :
    ClientSettings → Command → Except TransportError Answer
  tunnel :
    ClientSettings → Command → Except TransportError Answer

namespace Wires

/- The two ways through a network. -/
def ofNetwork
    (net : Network) : Wires :=
  { socket := fun s c => (Wire.bySocket net s c).outcome
    tunnel := Wire.byTunnel net }

/- Send a command that is filled in. -/
def send
    (w : Wires)
    (s : ClientSettings)
    (c : Command) : Except TransportError Answer :=
  match s.route c with
  | .socket => w.socket s c
  | .tunnel => w.tunnel s c

end Wires

end Courier

------------------------------------------------------------
-- Commands
------------------------------------------------------------

namespace Courier

namespace Communicator

/- The answer if the command to stop reaches nobody. -/
def unreachable
    (e : TransportError) : Answer :=
  { Answer.stop with
    entity := s!"server unreachable: {e.message}" }

/-
  Fill in a command and send it.  The command to stop always
  has an answer.
-/
def send
    (w : Wires)
    (s : ClientSettings)
    (c : Command) : Except TransportError Answer :=
  let c := s.stamp c
  match w.send s c with
  | .ok a => .ok a
  | .error e =>
      if c.isStop then .ok (unreachable e) else .error e

/- Stop the server. -/
def stop
    (w : Wires)
    (s : ClientSettings) : Except TransportError Answer :=
  send w s .stop

/- Ask whether the server is alive. -/
def health
    (w : Wires)
    (s : ClientSettings) : Except TransportError Answer :=
  send w s .health

/- Delete a stored file. -/
def delete
    (w : Wires)
    (s : ClientSettings)
    (d : Delete) : Except TransportError Answer :=
  send w s d.toCommand

end Communicator

end Courier

------------------------------------------------------------
-- Settings
------------------------------------------------------------

namespace Courier

namespace Communicator

/- Replace the settings, or keep them if that fails. -/
def reload
    (s : ClientSettings)
    (c : Config)
    (files : FileView) :
    Except ConfigError Unit × ClientSettings :=
  match ClientSettings.ofValid c files with
  | .ok next => (.ok (), next)
  | .error e => (.error e, s)

end Communicator

end Courier
