import Courier.Storage.Disk

/-
  Operations on stored files that go on at the same time.

  A file is written under a hidden name, piece by piece, and
  gets its final name in one step.  A file that is looked
  for is opened in one step and then copied piece by piece.
  A file is deleted in one step.  A schedule says which
  operation takes the next step and how much it moves then.

  Key definitions include:
    * `Stage`
    * `Task`
    * `Task.step`
    * `Workshop`
    * `Workshop.run`
    * `Workshop.effects`
-/

------------------------------------------------------------
-- Tasks
------------------------------------------------------------

namespace Courier

/- How far an operation has come. -/
inductive Stage where
| waiting : Stage
| prepared : Stage
| writing : (file : Nat) → (left : Bytes) → Stage
| reading : (file : Nat) → (got : Bytes) → Stage
| done : Shelf.Report → Stage
deriving DecidableEq, Repr

/- An operation that is going on. -/
structure Task where
  operation : Shelf.Operation
  stage : Stage
deriving DecidableEq, Repr

namespace Task

/- An operation that has not begun. -/
def ofOperation
    (o : Shelf.Operation) : Task :=
  { operation := o
    stage := .waiting }

/- What an operation has reported. -/
def report?
    (t : Task) : Option Shelf.Report :=
  match t.stage with
  | .done report => some report
  | _ => none

/- The end of a step, and whether it took effect there. -/
structure Step where
  stage : Stage
  disk : Disk
  tookEffect : Bool

/- A step that nobody else can see. -/
def Step.silent
    (stage : Stage)
    (d : Disk) : Step :=
  { stage := stage
    disk := d
    tookEffect := false }

/- The step at which an operation takes effect. -/
def Step.effective
    (stage : Stage)
    (d : Disk) : Step :=
  { stage := stage
    disk := d
    tookEffect := true }

/- The next step of writing a file. -/
def storeStep
    (owner count : Nat)
    (d : Disk)
    (key : FileKey)
    (content : Bytes) : Stage → Step
  | .waiting => .silent .prepared (d.makeDirectory key.1)
  | .prepared =>
      let (file, d') := d.create (.hidden key.1 owner)
      .silent (.writing file content) d'
  | .writing file left =>
      if left.isEmpty then
        .effective (.done .stored)
          (d.rename (.hidden key.1 owner) (.final key))
      else
        .silent (.writing file (left.drop count))
          (d.append file (left.take count))
  | stage => .silent stage d

/- The next step of looking for a file. -/
def findStep
    (count : Nat)
    (d : Disk)
    (key : FileKey) : Stage → Step
  | .waiting =>
      match d.names (.final key) with
      | none => .effective (.done (.found none)) d
      | some file => .effective (.reading file []) d
  | .reading file got =>
      let left := (d.content file).drop got.length
      if left.isEmpty then
        .silent (.done (.found (some got))) d
      else
        .silent (.reading file (got ++ left.take count)) d
  | stage => .silent stage d

/- The only step of deleting a file. -/
def deleteStep
    (d : Disk)
    (key : FileKey) : Stage → Step
  | .waiting =>
      .effective
        (.done (.deleted (d.names (.final key)).isSome))
        (d.unlink (.final key))
  | stage => .silent stage d

/- The next step of an operation with a number. -/
def step
    (owner count : Nat)
    (d : Disk)
    (t : Task) : Step :=
  match t.operation with
  | .store key content =>
      storeStep owner count d key content t.stage
  | .find key => findStep count d key t.stage
  | .delete key => deleteStep d key t.stage

end Task

end Courier

------------------------------------------------------------
-- Workshops
------------------------------------------------------------

namespace Courier

/-
  A disk, the operations that use it, and the numbers of
  those that have taken effect, in that order.
-/
structure Workshop where
  disk : Disk
  tasks : List Task
  effects : List Nat

/- Who takes a step, and how many octets are moved then. -/
structure Turn where
  owner : Nat
  count : Nat
deriving DecidableEq, Repr

namespace Workshop

/- Operations on an empty disk that have not begun. -/
def ofOperations
    (operations : List Shelf.Operation) : Workshop :=
  { disk := .empty
    tasks := operations.map .ofOperation
    effects := [] }

/- Let an operation take its next step. -/
def step
    (w : Workshop)
    (turn : Turn) : Workshop :=
  match w.tasks[turn.owner]? with
  | none => w
  | some t =>
      let next := t.step turn.owner turn.count w.disk
      { disk := next.disk
        tasks :=
          w.tasks.set turn.owner { t with stage := next.stage }
        effects :=
          if next.tookEffect then w.effects ++ [turn.owner]
          else w.effects }

/- Let operations take steps as a schedule says. -/
def run
    (w : Workshop)
    (schedule : List Turn) : Workshop :=
  schedule.foldl step w

/- All operations have reported. -/
def IsDone
    (w : Workshop) : Prop :=
  ∀ t ∈ w.tasks, t.report?.isSome

/- What was done, in the order in which it took effect. -/
def history
    (w : Workshop) : List Shelf.Operation :=
  w.effects.filterMap fun owner =>
    (w.tasks[owner]?).map Task.operation

end Workshop

end Courier
