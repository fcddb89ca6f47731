import Courier.File.Download
import Courier.Storage.Error
import Courier.Storage.Tree

/-
  Stored files: one directory for each domain, one file for
  each file id in it.

  A file is written under a hidden name first and then takes
  its final name in one step, so that nobody ever sees a
  part of it.  A file is handed out as a temporary copy.

  Key definitions include:
    * `Store`
    * `Store.component?`
    * `Store.key?`
    * `Store.hiddenPath`
    * `Store.Source`
    * `Store.fill`
    * `Store.place`
    * `Store.store`
    * `Store.find`
    * `Store.delete`
    * `Store.content?`
-/

------------------------------------------------------------
-- Keys
------------------------------------------------------------

namespace Courier

/-
  The stored files and the temporary copies of some.  The
  search for a hidden name starts at the serial number.
-/
structure Store where
  tree : Tree
  temp : TemporaryFiles
  serial : Nat
deriving DecidableEq, Repr

namespace Store

/- A store without files. -/
def empty : Store :=
  { tree := []
    temp := .empty
    serial := 0 }

/- The domain of files that name none. -/
def defaultDomain : String := "default"

/-
  The directory or file name for a text: its safe form,
  unless that is empty or a name for another directory.
-/
def component?
    (name : String) : Option String :=
  let safe := FileName.sanitize name
  if safe = "" ∨ safe = "." ∨ safe = ".." then none
  else some safe

/- The directory of a domain. -/
def domainComponent?
    (domain : Option String) : Option String :=
  component?
    (match domain with
    | none | some "" => defaultDomain
    | some name => name)

/- The directory and the name of a file. -/
def key?
    (fileId : String)
    (domain : Option String) : Option (String × String) :=
  match component? fileId, domainComponent? domain with
  | some name, some directory => some (directory, name)
  | _, _ => none

/-
  The hidden name of a file that is being written: the final
  name and a mark of thirty-six characters.
-/
def hiddenName
    (name : String)
    (serial : Nat) : String :=
  let digits := (Nat.toDigits 10 serial)
  let mark :=
    List.replicate (36 - digits.length) '0' ++ digits
  String.ofList
    ('.' :: name.toList ++ '.' :: mark ++
      ['.', 't', 'm', 'p'])

/-
  The first serial number, from the given one on, whose
  hidden name is not in use in the directory.
-/
def freshSerial
    (t : Tree)
    (directory name : String)
    (serial : Nat) : Nat :=
  let candidates :=
    (List.range (t.length + 1)).map (serial + ·)
  let fresh :=
    candidates.find? fun n =>
      (t.node? [directory, hiddenName name n]).isNone
  fresh.getD serial

/- The hidden path of a file that is about to be written. -/
def hiddenPath
    (t : Tree)
    (directory name : String)
    (serial : Nat) : Path :=
  [directory,
    hiddenName name (freshSerial t directory name serial)]

end Store

end Courier

------------------------------------------------------------
-- Storing
------------------------------------------------------------

namespace Courier

namespace Store

/-
  A file that is to be stored, as copying it goes: nothing
  is copied at all, all of it is, or the copy breaks off
  after some bytes, as it does when the source cannot be
  read further or the disk is full.
-/
inductive Source where
| closed : IoError → Source
| whole : Bytes → Source
| broken : (written : Bytes) → IoError → Source
deriving DecidableEq, Repr

/- A source that is read at once, or not at all. -/
def Source.ofRead : Except IoError Bytes → Source
  | .error e => .closed e
  | .ok content => .whole content

instance : Coe (Except IoError Bytes) Source where
  coe := Source.ofRead

/-
  Copy a source to a path.  What was written stays there if
  the copy breaks off.
-/
def fill
    (t : Tree)
    (path : Path) : Source → Except IoError Unit × Tree
  | .closed e => (.error e, t)
  | .whole content =>
      match t.writeFile path content with
      | .error e => (.error e, t)
      | .ok t' => (.ok (), t')
  | .broken written e =>
      match t.writeFile path written with
      | .error refused => (.error refused, t)
      | .ok t' => (.error e, t')

/-
  Copy a source to a hidden path and give the file its final
  name.  Where one of them fails the hidden file is removed.
-/
def place
    (t : Tree)
    (hidden final : Path)
    (source : Source) : Except IoError Unit × Tree :=
  match fill t hidden source with
  | (.error e, t') => (.error e, t'.discard hidden)
  | (.ok (), t') =>
      match t'.rename hidden final with
      | .error e => (.error e, t'.discard hidden)
      | .ok t'' => (.ok (), t'')

/-
  Store the content of a source, which may fail to be
  copied, and report the id of the file.  The domain is
  checked before the name.
-/
def store
    (s : Store)
    (source : Source)
    (name : String)
    (domain : Option String) :
    Except StorageError String × Store :=
  match domainComponent? domain, component? name with
  | none, _ =>
      (.error (.invalidName (domain.getD "")), s)
  | some _, none => (.error (.invalidName name), s)
  | some directory, some fileId =>
      match s.tree.makeDirectory [directory] with
      | .error e => (.error (.io e), s)
      | .ok t =>
          let hidden :=
            hiddenPath s.tree directory fileId s.serial
          let (placed, t') :=
            place t hidden [directory, fileId] source
          let s' :=
            { s with tree := t', serial := s.serial + 1 }
          match placed with
          | .error e => (.error (.io e), s')
          | .ok () => (.ok fileId, s')

end Store

end Courier

------------------------------------------------------------
-- Finding and Deleting
------------------------------------------------------------

namespace Courier

namespace Store

/- Hand out a temporary copy of a file, if it is there. -/
def find
    (s : Store)
    (fileId : String)
    (domain : Option String) :
    Except StorageError (Option Download) × Store :=
  match key? fileId domain with
  | none => (.ok none, s)
  | some (directory, name) =>
      match s.temp.create with
      | .error e => (.error (.io e), s)
      | .ok (copy, temp) =>
          match s.tree.readFile [directory, name] with
          | .error e =>
              let s' := { s with temp := temp.remove copy }
              if e.kind = .notFound then (.ok none, s')
              else (.error (.io e), s')
          | .ok content =>
              (.ok
                (some
                  { fileId := name
                    fileName := name
                    domain := domain
                    copy := copy }),
                { s with temp := temp.put copy content })

/- Delete a file and report whether it was there. -/
def delete
    (s : Store)
    (fileId : String)
    (domain : Option String) :
    Except StorageError Bool × Store :=
  match key? fileId domain with
  | none => (.ok false, s)
  | some (directory, name) =>
      match s.tree.unlink [directory, name] with
      | .ok t => (.ok true, { s with tree := t })
      | .error e =>
          if e.kind = .notFound then (.ok false, s)
          else (.error (.io e), s)

end Store

end Courier

------------------------------------------------------------
-- The View of a Store
------------------------------------------------------------

namespace Courier

namespace Store

/- The content of the file with a key. -/
def content?
    (s : Store)
    (key : String × String) : Option Bytes :=
  match s.tree.node? [key.1, key.2] with
  | some (.file bytes) => some bytes
  | _ => none

end Store

end Courier
