import Courier.Server.Connection
import Courier.Server.Tunnel

/-
  The life of a server: one event after another.

  An event is a connection from its first byte to its end, a
  request at the endpoint, or a trigger of the stop signal
  by the server's own handle.  Others can have clones of the
  handle, clone them again and trigger them.

  Key definitions include:
    * `Server.Event`
    * `Server.step`
    * `Server.run`
    * `Move`
    * `Scene`
    * `Scene.run`
-/

------------------------------------------------------------
-- Events
------------------------------------------------------------

namespace Courier

namespace Server

/- What can happen to a server. -/
inductive Event where
| connection : Stream.Reader → Stream.Writer → Event
| request : Tunnel.Request → Event
| trigger : Event

/- A server with an endpoint after an event. -/
def step
    (t : Option Tunnel)
    (s : Server) : Event → Server
  | .connection r w => (s.handle r w).server
  | .request q =>
      match t with
      | none => s
      | some t => (s.serve t q).2
  | .trigger => s.trigger

/- A server with an endpoint after all events. -/
def run
    (t : Option Tunnel)
    (s : Server)
    (events : List Event) : Server :=
  events.foldl (step t) s

end Server

end Courier

------------------------------------------------------------
-- Handles
------------------------------------------------------------

namespace Courier

/-
  What happens to a server, or what is done with a handle of
  its stop signal by somebody who has it.
-/
inductive Move where
| event : Server.Event → Move
| clone : Nat → Move
| trigger : Nat → Move

/- A server, and the handles that others have of its signal. -/
structure Scene where
  server : Server
  clones : List StopSignals.Handle

namespace Scene

/- A server before anybody else has a handle. -/
def start
    (s : Server) : Scene :=
  { server := s
    clones := [] }

/-
  The handle with a number.  Whoever has none of the clones
  asks the server for its own.
-/
def handle
    (x : Scene)
    (i : Nat) : StopSignals.Handle :=
  x.clones.getD i x.server.stop

/- The signal of the handle with a number was triggered. -/
def sees
    (x : Scene)
    (i : Nat) : Bool :=
  x.server.signals.isTriggered (x.handle i)

/- The scene after a move. -/
def step
    (t : Option Tunnel)
    (x : Scene) : Move → Scene
  | .event e => { x with server := x.server.step t e }
  | .clone i => { x with clones := x.clones ++ [x.handle i] }
  | .trigger i =>
      { x with
        server :=
          { x.server with
            signals := x.server.signals.trigger (x.handle i) } }

/- The scene after all moves. -/
def run
    (t : Option Tunnel)
    (x : Scene)
    (moves : List Move) : Scene :=
  moves.foldl (step t) x

end Scene

end Courier
