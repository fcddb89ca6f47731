import Courier.File.Name
import Courier.File.Temporary
import Courier.Envelope.Command
import Courier.Stream.Copy

/-
  Downloads: temporary copies of stored files on their way
  to a client.

  Key definitions include:
    * `Download`
    * `Download.request`
    * `Download.length`
    * `Download.streamThen`
    * `Download.streamTo`
    * `Delete`
    * `Delete.ofCommand`
    * `Delete.toCommand`
-/

------------------------------------------------------------
-- Downloads
------------------------------------------------------------

namespace Courier

/- A stored file with the number of its temporary copy. -/
structure Download where
  fileId : String
  fileName : String
  domain : Option String
  copy : Nat
deriving DecidableEq, Repr

namespace Download

/- The command that asks for a file. -/
def request
    (fileId : String)
    (domain : Option String) : Command :=
  { Command.internal Command.downloadVerb with
    entity := FileName.sanitize fileId
    fileId := some fileId
    domain := domain }

/- Downloads are the same if their file ids are. -/
def sameFile
    (d e : Download) : Bool :=
  d.fileId == e.fileId

/- The length of the copy. -/
def length
    (d : Download)
    (temp : TemporaryFiles) : Except IoError Nat :=
  match temp.read d.copy with
  | .ok content => .ok content.length
  | .error e => .error e

/- The end of sending a copy. -/
structure Sent where
  outcome : Except IoError Nat
  waited : Nat
  writer : Stream.Writer
  temp : TemporaryFiles

/-
  Send the first bytes of the copy, which stays, through a
  buffer that is taken to be there.
-/
def copyTo
    (d : Download)
    (temp : TemporaryFiles)
    (total size limit : Nat)
    (w : Stream.Writer) : Sent :=
  match temp.read d.copy with
  | .error e => ⟨.error e, 0, w, temp⟩
  | .ok content =>
      let copied :=
        Copy.through total size limit (.ofBytes content) w
      { outcome :=
          match copied.outcome with
          | .ok n => .ok n
          | .error fault => .error fault.toIoError
        waited := copied.waited
        writer := copied.writer
        temp := temp }

/-
  Send the first bytes of the copy and remove it in a given
  way, whatever happens.  A failure to send is reported
  before a failure to remove.
-/
def streamThen
    (remove :
      TemporaryFiles → Except IoError Unit × TemporaryFiles)
    (d : Download)
    (temp : TemporaryFiles)
    (total size limit : Nat)
    (w : Stream.Writer) : Sent :=
  let sent := d.copyTo temp total size limit w
  let (removed, temp') := remove sent.temp
  { outcome :=
      match sent.outcome, removed with
      | .error e, _ => .error e
      | .ok _, .error e => .error e
      | .ok n, .ok () => .ok n
    waited := sent.waited
    writer := sent.writer
    temp := temp' }

/- Send the first bytes of the copy and remove it. -/
def streamTo
    (d : Download)
    (temp : TemporaryFiles)
    (total size limit : Nat)
    (w : Stream.Writer) : Sent :=
  d.streamThen (·.close d.copy) temp total size limit w

end Download

end Courier

------------------------------------------------------------
-- Deletes
------------------------------------------------------------

namespace Courier

/- A stored file that is to be deleted. -/
structure Delete where
  fileId : String
  domain : Option String
deriving DecidableEq, Repr

namespace Delete

/- The file that a command names by id or by entity. -/
def ofCommand
    (c : Command) : Delete :=
  { fileId := c.fileId.getD c.entity
    domain := c.domain }

/- The command that deletes a file. -/
def toCommand
    (d : Delete) : Command :=
  { Command.internal Command.deleteVerb with
    entity := FileName.sanitize d.fileId
    fileId := some d.fileId
    domain := d.domain }

end Delete

end Courier
