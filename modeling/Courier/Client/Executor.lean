import Courier.Client.Communicator
import Courier.Dispatch.Registry

/-
  Carrying out commands here or at a server.

  Key definitions include:
    * `Executor`
    * `Executor.isLocal`
    * `Executor.execute`
-/

------------------------------------------------------------
-- Executors
------------------------------------------------------------

namespace Courier

/- Where commands are carried out. -/
inductive Executor where
| here : Registry → Executor
| there : Wires → ClientSettings → Executor

namespace Executor

/- Commands are carried out here. -/
def isLocal : Executor → Bool
  | .here _ => true
  | .there .. => false

/- Have a command carried out. -/
def execute
    (x : Executor)
    (c : Command) : Except TransportError Answer :=
  match x with
  | .here registry => .ok (registry.dispatch c)
  | .there wires settings =>
      Communicator.send wires settings c

end Executor

end Courier
