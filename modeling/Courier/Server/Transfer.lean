import Courier.File.Upload
import Courier.Server.State
import Courier.Stream.Frame

/-
  Files on their way to and from a server.

  The bytes of an upload that is refused are read all the
  same, so that the refusal is not lost on a client that is
  still writing.  A file is stored only after all of its
  bytes are there and have the right checksum.

  Key definitions include:
    * `Server.reply`
    * `Server.refuse`
    * `Server.receive`
    * `Server.send`
-/

------------------------------------------------------------
-- Replies
------------------------------------------------------------

namespace Courier

namespace Server

/- Write an answer within the limit. -/
def reply
    (s : Server)
    (w : Stream.Writer)
    (a : Answer) : Frame.Sent :=
  Frame.writeAnswer s.readTimeout w a

end Server

end Courier

------------------------------------------------------------
-- Uploads
------------------------------------------------------------

namespace Courier

namespace Server

/- The answer to an upload, and what it has taken. -/
structure Received where
  answer : Answer
  server : Server
  reader : Stream.Reader
  waited : Nat

/-
  Copy a number of bytes from a connection, through a buffer
  that is taken to be there, to a file that takes them all.
-/
def collect
    (s : Server)
    (count : Nat)
    (r : Stream.Reader) : Copy.Result :=
  Copy.through count s.bufferSize s.readTimeout r .endless

/- Read the bytes of an upload that is not stored. -/
def refuse
    (s : Server)
    (count : Nat)
    (r : Stream.Reader)
    (a : Answer) : Received :=
  let drained := s.collect count r
  { answer := a
    server := s
    reader := drained.reader
    waited := drained.waited }

/- The answer to an upload that broke off. -/
def brokenUpload
    (fault : Copy.Fault) : Answer :=
  let e := fault.toIoError
  if e.kind = .unexpectedEof ∨ e.kind = .timedOut then
    .fileNok .lengthMismatch e.message
  else
    storageFailure e.message

/- The same letters and digits, whatever their size. -/
def sameChecksum
    (a b : String) : Bool :=
  a.toList.map Char.toLower == b.toList.map Char.toLower

/- Store the bytes of an upload if they have its checksum. -/
def judge
    (u : Upload)
    (files : Store)
    (content : Bytes) : Answer × Store :=
  let checksum := Md5.hex content
  if sameChecksum checksum u.checksum then
    match files.store (.whole content) u.fileName u.domain with
    | (.ok fileId, files') => (.fileOk fileId, files')
    | (.error e, files') => (storageFailure e.message, files')
  else
    (.fileNok .checksumMismatch
      s!"checksum {checksum} does not match {u.checksum}",
      files)

/-
  Store what was collected of an upload, unless the file it
  was collected in turns out to have another length.
-/
def accept
    (u : Upload)
    (files : Store)
    (count : Nat)
    (source : Except IoError Bytes) : Answer × Store :=
  match source with
  | .error e => (storageFailure e.message, files)
  | .ok content =>
      if content.length = count then
        judge u files content
      else
        (.fileNok .lengthMismatch
          s!"received {content.length} bytes, expected {count}",
          files)

/- Collect an upload in a temporary file, which is removed. -/
def keep
    (s : Server)
    (u : Upload)
    (files : Store)
    (count : Nat)
    (r : Stream.Reader) : Received :=
  match s.uploads.create with
  | .error e => s.refuse count r (storageFailure e.message)
  | .ok (n, uploads) =>
      let copied := s.collect count r
      let uploads := uploads.put n copied.writer.written
      let (answer, files') :=
        match copied.outcome with
        | .error fault => (brokenUpload fault, files)
        | .ok _ => accept u files count (uploads.read n)
      { answer := answer
        server :=
          { s with
            store := some files'
            uploads := uploads.remove n }
        reader := copied.reader
        waited := copied.waited }

/- Take an upload from a connection. -/
def receive
    (s : Server)
    (c : Command)
    (r : Stream.Reader) : Received :=
  let count := c.dataLength.toNat
  match s.wrongServer? c, s.store, Upload.ofCommand? c with
  | some refusal, _, _ => s.refuse count r refusal
  | none, none, _ => s.refuse count r noFiles
  | none, some _, none =>
      s.refuse count r
        (.fileNok .malformed
          s!"bad file entity {Quoted.quote c.entity}")
  | none, some files, some u => s.keep u files count r

end Server

end Courier

------------------------------------------------------------
-- Downloads
------------------------------------------------------------

namespace Courier

namespace Server

/- What was written for a download. -/
structure Sent where
  server : Server
  writer : Stream.Writer
  waited : Nat

/- Write an answer and nothing else. -/
def sendAnswer
    (s : Server)
    (w : Stream.Writer)
    (a : Answer) : Sent :=
  let replied := s.reply w a
  { server := s
    writer := replied.writer
    waited := replied.waited }

/-
  Announce a file and send its temporary copy.  The copy is
  removed, whether or not it could be announced or sent.
-/
def sendCopy
    (s : Server)
    (files : Store)
    (d : Download)
    (w : Stream.Writer) : Sent :=
  let dropped :=
    { s with
      store :=
        some { files with temp := files.temp.remove d.copy } }
  match d.length files.temp with
  | .error e => dropped.sendAnswer w (storageFailure e.message)
  | .ok count =>
      let announced :=
        s.reply w
          { Answer.fileOk d.fileId with
            dataLength := UInt64.ofNat count }
      match announced.outcome with
      | some (.ok ()) =>
          let sent :=
            d.streamTo files.temp count s.bufferSize
              s.readTimeout announced.writer
          { server :=
              { s with
                store := some { files with temp := sent.temp } }
            writer := sent.writer
            waited := announced.waited + sent.waited }
      | _ =>
          { server := dropped
            writer := announced.writer
            waited := announced.waited }

/- Send a stored file, or say why not. -/
def send
    (s : Server)
    (c : Command)
    (w : Stream.Writer) : Sent :=
  match s.wrongServer? c, s.store with
  | some refusal, _ => s.sendAnswer w refusal
  | none, none => s.sendAnswer w noFiles
  | none, some files =>
      let fileId := c.fileId.getD c.entity
      let (found, files') := files.find fileId c.domain
      let s' := { s with store := some files' }
      match found with
      | .ok (some d) => s'.sendCopy files' d w
      | .ok none => s'.sendAnswer w (noSuchFile fileId)
      | .error e =>
          s'.sendAnswer w (storageFailure e.message)

end Server

end Courier
