import Courier.Storage.Store

/-
  Stored files as a finite map from keys to contents.

  A shelf says what the operations on a store report and
  change, without directories, temporary files and hidden
  names.

  Key definitions include:
    * `Shelf`
    * `Shelf.Operation`
    * `Shelf.Report`
    * `Shelf.report`
    * `Shelf.after`
    * `Shelf.run`

  Key theorems include:
    * `Shelf.put_same`
    * `Shelf.put_other`
    * `Shelf.after_other`
    * `Shelf.run_append`
-/

------------------------------------------------------------
-- Shelves
------------------------------------------------------------

namespace Courier

/- The directory of a file and its name there. -/
abbrev FileKey := String × String

/- The content of each file that is there. -/
abbrev Shelf := FileKey → Option Bytes

namespace Shelf

/- No file is there. -/
def empty : Shelf :=
  fun _ => none

/- Give a file a content. -/
def put
    (m : Shelf)
    (key : FileKey)
    (content : Bytes) : Shelf :=
  fun other => if other = key then some content else m other

/- Take a file away. -/
def erase
    (m : Shelf)
    (key : FileKey) : Shelf :=
  fun other => if other = key then none else m other

/- A file has the content that it was given last. -/
theorem put_same
    (m : Shelf)
    (key : FileKey)
    (content : Bytes) :
    m.put key content key = some content := by
  simp [put]

/- A file keeps its content when another is given one. -/
theorem put_other
    (m : Shelf)
    {key other : FileKey}
    (content : Bytes)
    (hNe : other ≠ key) :
    m.put key content other = m other := by
  simp [put, hNe]

/- A file that was taken away is not there. -/
theorem erase_same
    (m : Shelf)
    (key : FileKey) :
    m.erase key key = none := by
  simp [erase]

/- A file keeps its content when another is taken away. -/
theorem erase_other
    (m : Shelf)
    {key other : FileKey}
    (hNe : other ≠ key) :
    m.erase key other = m other := by
  simp [erase, hNe]

end Shelf

end Courier

------------------------------------------------------------
-- Operations
------------------------------------------------------------

namespace Courier

namespace Shelf

/- What can be done with a file. -/
inductive Operation where
| store : FileKey → Bytes → Operation
| find : FileKey → Operation
| delete : FileKey → Operation
deriving DecidableEq, Repr

/- What is reported when that has been done. -/
inductive Report where
| stored : Report
| found : Option Bytes → Report
| deleted : Bool → Report
deriving DecidableEq, Repr

/- The key of the file that an operation is about. -/
def Operation.key : Operation → FileKey
  | .store key _ => key
  | .find key => key
  | .delete key => key

/- What an operation reports. -/
def report
    (m : Shelf) : Operation → Report
  | .store _ _ => .stored
  | .find key => .found (m key)
  | .delete key => .deleted (m key).isSome

/- The files after an operation. -/
def after
    (m : Shelf) : Operation → Shelf
  | .store key content => m.put key content
  | .find _ => m
  | .delete key => m.erase key

/- The files after one operation after another. -/
def run
    (m : Shelf)
    (operations : List Operation) : Shelf :=
  operations.foldl after m

/- An operation leaves the files with other keys alone. -/
theorem after_other
    (m : Shelf)
    (o : Operation)
    {other : FileKey}
    (hNe : other ≠ o.key) :
    m.after o other = m other := by
  cases o with
  | store key content => exact m.put_other content hNe
  | find key => rfl
  | delete key => exact m.erase_other hNe

/- Runs can be cut anywhere. -/
theorem run_append
    (m : Shelf)
    (first second : List Operation) :
    m.run (first ++ second) = (m.run first).run second :=
  List.foldl_append

end Shelf

end Courier

------------------------------------------------------------
-- The Shelf of a Store
------------------------------------------------------------

namespace Courier

namespace Store

/- The files of a store with their contents. -/
def shelf
    (s : Store) : Shelf :=
  s.content?

end Store

end Courier
