import Courier.Envelope.Answer
import Courier.Settings.Error

/-
  Dispatchers and the ids that they are registered under.

  Key definitions include:
    * `Dispatcher`
    * `Registry`
    * `Registry.register`
    * `Registry.resolve?`
    * `Registry.dispatch`
    * `Registry.ids`
    * `Registry.ofNames`
-/

------------------------------------------------------------
-- Dispatchers
------------------------------------------------------------

namespace Courier

/- What carries out commands, and the id it goes by. -/
structure Dispatcher where
  id : String
  dispatch : Command → Answer

/- Dispatchers, each under an id of its own. -/
abbrev Registry := List (String × Dispatcher)

namespace Registry

/- Register a dispatcher, instead of one with the same id. -/
def register
    (r : Registry)
    (id : String)
    (d : Dispatcher) : Registry :=
  (id, d) :: r.filter fun entry => entry.1 != id

/- Register a dispatcher under its own id. -/
def registerOwn
    (r : Registry)
    (d : Dispatcher) : Registry :=
  r.register d.id d

/- The dispatcher with an id. -/
def resolve?
    (r : Registry)
    (id : String) : Option Dispatcher :=
  r.lookup id

/- The ids in ascending order. -/
def ids
    (r : Registry) : List String :=
  (r.map Prod.fst).mergeSort fun a b => a ≤ b

/- There is no dispatcher for a command. -/
def unknownDispatcher
    (id : String) : Answer :=
  .error .unknownDispatcher s!"unknown dispatcher {id}"

/- Have a command carried out by its dispatcher. -/
def dispatch
    (r : Registry)
    (c : Command) : Answer :=
  match r.resolve? c.dispatcherId with
  | some d => d.dispatch c
  | none => unknownDispatcher c.dispatcherId

end Registry

end Courier

------------------------------------------------------------
-- Building
------------------------------------------------------------

namespace Courier

namespace Registry

/-
  Register the dispatcher of each name under the name.  The
  first name that nothing can be made of is refused.
-/
def addNames
    (known : Registry)
    (r : Registry) :
    List String → Except ConfigError Registry
  | [] => .ok r
  | name :: rest =>
      match known.resolve? name with
      | some d => addNames known (r.register name d) rest
      | none => .error (.unknownDispatcher name)

/- The registry of the named dispatchers. -/
def ofNames
    (known : Registry)
    (names : List String) : Except ConfigError Registry :=
  addNames known [] names

end Registry

end Courier
