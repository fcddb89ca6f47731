import Courier.Client.Wire
import Courier.File.Download
import Courier.File.Upload

/-
  Files on their way from and to a client.

  An upload that has no local file to read from fails before
  anybody is asked for a connection.  A download is collected
  beside its destination, which it replaces only after its
  last byte is there.  The buffer that the bytes go through
  is taken to be there.

  Key definitions include:
    * `LocalFiles`
    * `Transfer.upload`
    * `Destination`
    * `Transfer.download`
-/

------------------------------------------------------------
-- Uploads
------------------------------------------------------------

namespace Courier

/- The local files that can be opened, by their paths. -/
abbrev LocalFiles := String → Except IoError Stream.Reader

namespace Transfer

/- An upload without a local file. -/
def noSource : IoError :=
  { kind := .invalidInput
    message := "upload has no source file" }

/- What is reported for an upload that broke off. -/
def uploadFault
    (c : Command)
    (limit : Nat)
    (path : String)
    (fault : Copy.Fault) : TransportError :=
  let e := fault.toIoError
  if e.kind = .unexpectedEof then .localFile path e
  else .ofIo c.host c.port limit e

/- Send the bytes of an upload after its command. -/
def sendBytes
    (s : ClientSettings)
    (c : Command)
    (u : Upload)
    (path : String)
    (source : Stream.Reader)
    (k : Connection) : Call Answer :=
  let limit := s.timeLimit c
  let copied :=
    Copy.through u.size.toNat s.bufferSize.toNat limit source
      k.writer
  let k' := { k with writer := copied.writer }
  { outcome :=
      match copied.outcome with
      | .error fault =>
          .error (uploadFault c limit path fault)
      | .ok _ => (Wire.receive s c k').map Prod.fst
    sent := k'.sent }

/- Send a local file to the server. -/
def upload
    (net : Network)
    (files : LocalFiles)
    (s : ClientSettings)
    (u : Upload) : Call Answer :=
  let c := s.stamp u.toCommand
  match u.source with
  | none => ⟨.error (.localFile u.fileName noSource), []⟩
  | some path =>
      match files path with
      | .error e => ⟨.error (.localFile path e), []⟩
      | .ok source =>
          let dialed := Wire.dial net s c
          match dialed.outcome with
          | .error e => ⟨.error e, dialed.sent⟩
          | .ok k => sendBytes s c u path source k

end Transfer

end Courier

------------------------------------------------------------
-- Destinations
------------------------------------------------------------

namespace Courier

/-
  A place for a download: what is there, the temporary files
  beside it, how a new file there takes bytes, and why no
  file can take the place, if none can.
-/
structure Destination where
  path : String
  content : Option Bytes
  temp : TemporaryFiles
  disk : Stream.Writer
  refusal : Option IoError
deriving DecidableEq, Repr

namespace Destination

/- A place in an ordinary directory. -/
def ofContent
    (path : String)
    (content : Option Bytes) : Destination :=
  { path := path
    content := content
    temp := .empty
    disk := .endless
    refusal := none }

/- Give a temporary file the place. -/
def replace
    (d : Destination)
    (n : Nat) : Except IoError Unit × Destination :=
  let dropped := { d with temp := d.temp.remove n }
  match d.refusal, d.temp.read n with
  | some e, _ => (.error e, dropped)
  | none, .error e => (.error e, dropped)
  | none, .ok bytes =>
      (.ok (), { dropped with content := some bytes })

end Destination

end Courier

------------------------------------------------------------
-- Downloads
------------------------------------------------------------

namespace Courier

namespace Transfer

/- Collect a file and put it into its place. -/
def collect
    (s : ClientSettings)
    (c : Command)
    (d : Destination)
    (count : Nat)
    (r : Stream.Reader) :
    Except TransportError Unit × Destination :=
  match d.temp.create with
  | .error e => (.error (.localFile d.path e), d)
  | .ok (n, temp) =>
      let limit := s.timeLimit c
      let copied :=
        Copy.through count s.bufferSize.toNat limit r d.disk
      let temp := temp.put n copied.writer.written
      match copied.outcome with
      | .error fault =>
          (.error
            (.ofIo c.host c.port limit fault.toIoError),
            { d with temp := temp.remove n })
      | .ok _ =>
          match { d with temp := temp }.replace n with
          | (.ok (), d') => (.ok (), d')
          | (.error e, d') => (.error (.localFile d.path e), d')

/- Fetch a stored file. -/
def download
    (net : Network)
    (s : ClientSettings)
    (fileId : String)
    (domain : Option String)
    (d : Destination) : Call Answer × Destination :=
  let c := s.stamp (Download.request fileId domain)
  let dialed := Wire.dial net s c
  let ended (e : TransportError) := (⟨.error e, dialed.sent⟩, d)
  match dialed.outcome with
  | .error e => ended e
  | .ok k =>
      match Wire.receive s c k with
      | .error e => ended e
      | .ok (a, r) =>
          if a.status ≠ .fileOk then
            (⟨.ok a, dialed.sent⟩, d)
          else
            match collect s c d a.dataLength.toNat r with
            | (.ok (), d') => (⟨.ok a, dialed.sent⟩, d')
            | (.error e, d') => (⟨.error e, dialed.sent⟩, d')

end Transfer

end Courier
