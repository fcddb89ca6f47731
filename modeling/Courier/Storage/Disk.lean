import Courier.Storage.Shelf

/-
  A disk that several operations use at the same time.

  A name leads to a file, and a file that was opened can be
  read even after its name was taken away or given to
  another file.  Each hidden name belongs to one operation,
  and no file can be asked for by such a name.

  Key definitions include:
    * `Slot`
    * `Disk`
    * `Disk.create`
    * `Disk.append`
    * `Disk.rename`
    * `Disk.unlink`
    * `Disk.shelf`

  Key theorems include:
    * `Disk.unlink_same`
    * `Disk.unlink_other`
    * `Disk.rename_new`
    * `Disk.rename_other`
-/

------------------------------------------------------------
-- Disks
------------------------------------------------------------

namespace Courier

/-
  A name for a file: the final one, or a hidden one of the
  operation with a number.
-/
inductive Slot where
| final : FileKey → Slot
| hidden : (directory : String) → (owner : Nat) → Slot
deriving DecidableEq, Repr

/- The directory of a name. -/
def Slot.directory : Slot → String
  | .final key => key.1
  | .hidden directory _ => directory

/-
  The directories, the number of the file behind each name,
  and the contents of the files in the order of numbers.
-/
structure Disk where
  directories : List String
  names : Slot → Option Nat
  contents : List Bytes

namespace Disk

/- A disk without files. -/
def empty : Disk :=
  { directories := []
    names := fun _ => none
    contents := [] }

/- Make sure that a directory is there. -/
def makeDirectory
    (d : Disk)
    (directory : String) : Disk :=
  { d with directories := directory :: d.directories }

/- Make a new empty file behind a name. -/
def create
    (d : Disk)
    (slot : Slot) : Nat × Disk :=
  (d.contents.length,
    { d with
      names := fun other =>
        if other = slot then some d.contents.length
        else d.names other
      contents := d.contents ++ [[]] })

/- Write to the end of an opened file. -/
def append
    (d : Disk)
    (file : Nat)
    (chunk : Bytes) : Disk :=
  { d with
    contents := d.contents.modify file (· ++ chunk) }

/- The content of an opened file. -/
def content
    (d : Disk)
    (file : Nat) : Bytes :=
  (d.contents[file]?).getD []

/- Take a name away. -/
def unlink
    (d : Disk)
    (slot : Slot) : Disk :=
  { d with
    names := fun other =>
      if other = slot then none else d.names other }

/- Give a file a new name, whatever that led to. -/
def rename
    (d : Disk)
    (old new : Slot) : Disk :=
  { d with
    names := fun other =>
      if other = new then d.names old
      else if other = old then none
      else d.names other }

/- A name that was taken away leads nowhere. -/
theorem unlink_same
    (d : Disk)
    (slot : Slot) :
    (d.unlink slot).names slot = none := by
  simp [unlink]

/- Taking a name away leaves the others alone. -/
theorem unlink_other
    (d : Disk)
    {slot other : Slot}
    (hNe : other ≠ slot) :
    (d.unlink slot).names other = d.names other := by
  simp [unlink, hNe]

/- A new name leads to the file of the old one. -/
theorem rename_new
    (d : Disk)
    (old new : Slot) :
    (d.rename old new).names new = d.names old := by
  simp [rename]

/- Giving a new name leaves all further names alone. -/
theorem rename_other
    (d : Disk)
    {old new other : Slot}
    (hOld : other ≠ old)
    (hNew : other ≠ new) :
    (d.rename old new).names other = d.names other := by
  simp [rename, hOld, hNew]

end Disk

end Courier

------------------------------------------------------------
-- The Shelf of a Disk
------------------------------------------------------------

namespace Courier

namespace Disk

/- What can be asked for, with the content it has now. -/
def shelf
    (d : Disk) : Shelf :=
  fun key => (d.names (.final key)).map d.content

/- No file has a hidden name. -/
def IsTidy
    (d : Disk) : Prop :=
  ∀ directory owner, d.names (.hidden directory owner) = none

end Disk

end Courier
