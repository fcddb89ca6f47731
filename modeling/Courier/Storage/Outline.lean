import Courier.Storage.Schedule

/-
  Operations on stored files without a disk.

  An outline has a shelf in place of names, directories and
  files with numbers.  An operation takes effect on the
  shelf in one step, and one that copies a file knows from
  then on what it will have copied in the end.

  Key definitions include:
    * `Phase`
    * `Phase.next`
    * `Phase.verdict?`
    * `Outline`
    * `Outline.run`
    * `Workshop.outline`

  Key theorems include:
    * `Outline.step_eq`
    * `Outline.step_missing`
-/

------------------------------------------------------------
-- Phases
------------------------------------------------------------

namespace Courier

/- How far an operation has come, apart from any disk. -/
inductive Phase where
| waiting : Phase
| prepared : Phase
| writing : (left : Bytes) → Phase
| reading : (whole got : Bytes) → Phase
| done : Shelf.Report → Phase
deriving DecidableEq, Repr

namespace Phase

/-
  The phase after the next step of an operation, and whether
  the operation took effect there.
-/
def next
    (m : Shelf)
    (count : Nat)
    (o : Shelf.Operation)
    (p : Phase) : Phase × Bool :=
  match o, p with
  | .store _ _, .waiting => (.prepared, false)
  | .store _ content, .prepared => (.writing content, false)
  | .store _ _, .writing left =>
      if left.isEmpty then (.done .stored, true)
      else (.writing (left.drop count), false)
  | .find key, .waiting =>
      match m key with
      | none => (.done (.found none), true)
      | some whole => (.reading whole [], true)
  | .find _, .reading whole got =>
      if (whole.drop got.length).isEmpty then
        (.done (.found (some got)), false)
      else
        (.reading whole
            (got ++ (whole.drop got.length).take count),
          false)
  | .delete key, .waiting =>
      (.done (.deleted (m key).isSome), true)
  | _, p => (p, false)

/- What is reported now, or will be whatever happens. -/
def verdict? : Phase → Option Shelf.Report
  | .waiting | .prepared | .writing _ => none
  | .reading whole _ => some (.found (some whole))
  | .done report => some report

/- What is reported now. -/
def report? : Phase → Option Shelf.Report
  | .done report => some report
  | _ => none

end Phase

end Courier

------------------------------------------------------------
-- Outlines
------------------------------------------------------------

namespace Courier

/- An operation and how far it has come. -/
structure Job where
  operation : Shelf.Operation
  phase : Phase
deriving DecidableEq, Repr

/-
  A shelf, the operations on it, and the numbers of those
  that have taken effect, in that order.
-/
structure Outline where
  shelf : Shelf
  jobs : List Job
  effects : List Nat

namespace Outline

/- Let an operation take its next step. -/
def step
    (l : Outline)
    (turn : Turn) : Outline :=
  match l.jobs[turn.owner]? with
  | none => l
  | some j =>
      let (phase, tookEffect) :=
        j.phase.next l.shelf turn.count j.operation
      { shelf :=
          if tookEffect then l.shelf.after j.operation
          else l.shelf
        jobs := l.jobs.set turn.owner { j with phase := phase }
        effects :=
          if tookEffect then l.effects ++ [turn.owner]
          else l.effects }

/- Let operations take steps as a schedule says. -/
def run
    (l : Outline)
    (schedule : List Turn) : Outline :=
  schedule.foldl step l

variable {l : Outline}
variable {turn : Turn}

/- A step of an operation, by what it does to the phase. -/
theorem step_eq
    {j : Job}
    {phase : Phase}
    {tookEffect : Bool}
    (hJob : l.jobs[turn.owner]? = some j)
    (hNext :
      j.phase.next l.shelf turn.count j.operation =
        (phase, tookEffect)) :
    l.step turn =
      { shelf :=
          if tookEffect then l.shelf.after j.operation
          else l.shelf
        jobs := l.jobs.set turn.owner { j with phase := phase }
        effects :=
          if tookEffect then l.effects ++ [turn.owner]
          else l.effects } := by
  simp only [step, hJob, hNext]

/- Nobody takes a step where there is no operation. -/
theorem step_missing
    (hNone : l.jobs[turn.owner]? = none) :
    l.step turn = l := by
  simp only [step, hNone]

end Outline

end Courier

------------------------------------------------------------
-- The Outline of a Workshop
------------------------------------------------------------

namespace Courier

/- The phase of an operation that uses a disk. -/
def Stage.phase
    (d : Disk) : Stage → Phase
  | .waiting => .waiting
  | .prepared => .prepared
  | .writing _ left => .writing left
  | .reading file got => .reading (d.content file) got
  | .done report => .done report

/- The operation of a task and how far it has come. -/
def Task.job
    (d : Disk)
    (t : Task) : Job :=
  { operation := t.operation
    phase := t.stage.phase d }

/- What a workshop does, without its disk. -/
def Workshop.outline
    (w : Workshop) : Outline :=
  { shelf := w.disk.shelf
    jobs := w.tasks.map (Task.job w.disk)
    effects := w.effects }

end Courier
