import Courier.Digest.Md5
import Courier.Envelope.Command
import Courier.File.Name

/-
  Uploads: files that go to a server.

  Key definitions include:
    * `Upload`
    * `Upload.ofFile`
    * `Upload.ofCommand?`
    * `Upload.toCommand`
    * `Upload.sameContent`
-/

------------------------------------------------------------
-- Uploads
------------------------------------------------------------

namespace Courier

/-
  What is known about a file that goes to a server.  Only
  the sender has a source.
-/
structure Upload where
  fileName : String
  domain : Option String
  user : Option String
  size : UInt64
  checksum : String
  source : Option String
deriving DecidableEq, Repr

namespace Upload

/- The failure of a path that ends in no name. -/
def noFileName : IoError :=
  { kind := .invalidInput, message := "path has no file name" }

/-
  Describe the file at a path, given its content or why it
  cannot be read.
-/
def ofFile
    (path : String)
    (content : Except IoError Bytes)
    (user domain : Option String) :
    Except IoError Upload :=
  match content with
  | .error e => .error e
  | .ok bytes =>
      match FileName.ofPath? path with
      | none => .error noFileName
      | some name =>
          .ok
            { fileName := FileName.sanitize name
              domain := domain
              user := user
              size := UInt64.ofNat bytes.length
              checksum := Md5.hex bytes
              source := some path }

/- The upload that a command announces. -/
def ofCommand?
    (c : Command) : Option Upload :=
  match FileEntity.decode? c.entity with
  | none => none
  | some (name, checksum) =>
      some
        { fileName := name
          domain := c.domain
          user := c.object.bind Json.text?
          size := c.dataLength
          checksum := checksum
          source := none }

/- The upload under another name. -/
def renamed
    (u : Upload)
    (fileName : String) : Upload :=
  { u with fileName := FileName.sanitize fileName }

/- The command that announces the upload. -/
def toCommand
    (u : Upload) : Command :=
  { Command.internal Command.uploadVerb with
    entity := FileEntity.encode u.fileName u.checksum
    dataLength := u.size
    domain := u.domain
    object := u.user.map .text }

/- Uploads are the same if size and checksum agree. -/
def sameContent
    (u v : Upload) : Bool :=
  u.size == v.size && u.checksum == v.checksum

/- The uploads that differ in content from all before. -/
def distinct
    (uploads : List Upload) : List Upload :=
  uploads.foldl
    (fun kept u =>
      if kept.any (sameContent u) then kept else kept ++ [u])
    []

end Upload

end Courier
