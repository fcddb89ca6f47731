/-
  Signals that tell all parts of a server to stop.

  A handle names a signal.  Whoever has the handle can
  trigger the signal and see whether it was triggered, and a
  signal that was triggered stays so.

  Key definitions include:
    * `StopSignals`
    * `StopSignals.create`
    * `StopSignals.trigger`
    * `StopSignals.isTriggered`

  Key theorems include:
    * `StopSignals.isTriggered_trigger`
-/

------------------------------------------------------------
-- Signals
------------------------------------------------------------

namespace Courier

/- How many signals there are, and which were triggered. -/
structure StopSignals where
  count : Nat
  triggered : List Nat
deriving DecidableEq, Repr

namespace StopSignals

/- A name for a signal. -/
abbrev Handle := Nat

/- No signals. -/
def empty : StopSignals :=
  { count := 0
    triggered := [] }

/- A new signal, which is not triggered. -/
def create
    (s : StopSignals) : Handle × StopSignals :=
  (s.count, { s with count := s.count + 1 })

/- Trigger a signal. -/
def trigger
    (s : StopSignals)
    (h : Handle) : StopSignals :=
  { s with triggered := h :: s.triggered }

/- The signal was triggered. -/
def isTriggered
    (s : StopSignals)
    (h : Handle) : Bool :=
  s.triggered.contains h

/- A trigger is seen at its own signal and nowhere else. -/
theorem isTriggered_trigger
    (s : StopSignals)
    (h k : Handle) :
    (s.trigger h).isTriggered k =
      (k == h || s.isTriggered k) :=
  List.contains_cons

end StopSignals

end Courier
