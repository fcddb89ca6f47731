import Courier.Bytes
import Courier.IoError

/-
  Temporary files, known by numbers that are never used
  again.

  Key definitions include:
    * `TemporaryFiles`
    * `TemporaryFiles.create`
    * `TemporaryFiles.put`
    * `TemporaryFiles.read`
    * `TemporaryFiles.remove`
    * `TemporaryFiles.close`

  Key theorems include:
    * `TemporaryFiles.exists_create`
    * `TemporaryFiles.read_put_create`
-/

------------------------------------------------------------
-- Directories of Temporary Files
------------------------------------------------------------

namespace Courier

/-
  The temporary files of a directory, which may be missing.
-/
structure TemporaryFiles where
  isPresent : Bool
  next : Nat
  files : List (Nat × Bytes)
deriving DecidableEq, Repr

namespace TemporaryFiles

/- A directory without files. -/
def empty : TemporaryFiles :=
  { isPresent := true
    next := 0
    files := [] }

/- Make a new empty file. -/
def create
    (t : TemporaryFiles) :
    Except IoError (Nat × TemporaryFiles) :=
  if t.isPresent then
    .ok
      (t.next,
        { t with
          next := t.next + 1
          files := (t.next, []) :: t.files })
  else
    .error .notFound

/- Give a file new content. -/
def put
    (t : TemporaryFiles)
    (n : Nat)
    (content : Bytes) : TemporaryFiles :=
  { t with
    files :=
      t.files.map fun file =>
        if file.1 = n then (n, content) else file }

/- The content of a file. -/
def read
    (t : TemporaryFiles)
    (n : Nat) : Except IoError Bytes :=
  match t.files.lookup n with
  | some content => .ok content
  | none => .error .notFound

/- Remove a file if it is there. -/
def remove
    (t : TemporaryFiles)
    (n : Nat) : TemporaryFiles :=
  { t with
    files := t.files.filter fun file => file.1 != n }

/- Remove a file, and report if it was not there. -/
def close
    (t : TemporaryFiles)
    (n : Nat) : Except IoError Unit × TemporaryFiles :=
  let closed :=
    match t.read n with
    | .ok _ => .ok ()
    | .error e => .error e
  (closed, t.remove n)

/- A directory that is there takes a new file. -/
theorem exists_create
    {t : TemporaryFiles}
    (hPresent : t.isPresent = true) :
    ∃ n t',
      t.create = .ok (n, t') ∧ t'.isPresent = true := by
  rw [create, if_pos hPresent]
  exact ⟨_, _, rfl, hPresent⟩

/- A new file has the content that it is given. -/
theorem read_put_create
    {t t' : TemporaryFiles}
    {n : Nat}
    (hCreate : t.create = .ok (n, t'))
    (content : Bytes) :
    (t'.put n content).read n = .ok content := by
  unfold create at hCreate
  split at hCreate
  · cases hCreate
    simp [read, put]
  · cases hCreate

end TemporaryFiles

end Courier
