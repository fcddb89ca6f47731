import Courier.Envelope.Command

/-
  Answers: what a server says to a command.

  Key definitions include:
    * `Status`
    * `Failure`
    * `Answer`
    * `Answer.toLine`
    * `Answer.ofLine`
    * `Answer.toJson`
    * `Answer.ofJson`

  Key theorems include:
    * `Status.ofCode?_code`
    * `Failure.ofName?_name`
-/

------------------------------------------------------------
-- Statuses
------------------------------------------------------------

namespace Courier

/- How a command ended. -/
inductive Status where
| ok : Status
| fileOk : Status
| fileNok : Status
| error : Status
| stop : Status
| health : Status
deriving DecidableEq, Repr

namespace Status

/- The code of a status. -/
def code : Status → Int
  | .ok => 1
  | .fileOk => 2
  | .fileNok => -2
  | .error => -1
  | .stop => 10
  | .health => 11

/- The status of a code. -/
def ofCode?
    (code : Int) : Option Status :=
  [ok, fileOk, fileNok, error, stop, health].find? fun s =>
    s.code == code

/- The status of a code, or what is wrong with it. -/
def ofCode
    (code : Int) : Except Malformed Status :=
  match ofCode? code with
  | some s => .ok s
  | none => .error (.unknownStatus code)

/- The command was not carried out. -/
def isFailure : Status → Bool
  | .error | .fileNok => true
  | _ => false

/- Each status is that of its code. -/
theorem ofCode?_code
    (s : Status) :
    ofCode? s.code = some s := by
  cases s <;> rfl

end Status

end Courier

------------------------------------------------------------
-- Failures
------------------------------------------------------------

namespace Courier

/- Why a command was not carried out. -/
inductive Failure where
| notFound : Failure
| checksumMismatch : Failure
| lengthMismatch : Failure
| storage : Failure
| unknownDispatcher : Failure
| malformed : Failure
| wrongServer : Failure
| fileServerDisabled : Failure
| dispatch : Failure
deriving DecidableEq, Repr

namespace Failure

/- The name of a failure on the wire. -/
def name : Failure → String
  | .notFound => "not-found"
  | .checksumMismatch => "checksum-mismatch"
  | .lengthMismatch => "length-mismatch"
  | .storage => "storage"
  | .unknownDispatcher => "unknown-dispatcher"
  | .malformed => "malformed"
  | .wrongServer => "wrong-server"
  | .fileServerDisabled => "file-server-disabled"
  | .dispatch => "dispatch"

/- The failure of a name. -/
def ofName?
    (name : String) : Option Failure :=
  [notFound, checksumMismatch, lengthMismatch, storage,
    unknownDispatcher, malformed, wrongServer,
    fileServerDisabled, dispatch].find? fun f =>
    f.name == name

/- The failure of a name, or what is wrong with it. -/
def ofName
    (name : String) : Except ProtocolError Failure :=
  match ofName? name with
  | some f => .ok f
  | none => .error (.malformed (.unknownFailure name))

/- Each failure is that of its name. -/
theorem ofName?_name
    (f : Failure) :
    ofName? f.name = some f := by
  cases f <;> decide

end Failure

end Courier

------------------------------------------------------------
-- Answers
------------------------------------------------------------

namespace Courier

/- The reply to a command. -/
structure Answer where
  status : Status
  entity : String
  dataLength : UInt64
  fileId : Option String
  failure : Option Failure
  object : Option Json
deriving Repr

namespace Answer

/- An answer with nothing but a status and a text. -/
def make
    (status : Status)
    (entity : String) : Answer :=
  { status := status
    entity := entity
    dataLength := 0
    fileId := none
    failure := none
    object := none }

/- The command was carried out. -/
def ok
    (entity : String) : Answer :=
  make .ok entity

/- The command was not carried out. -/
def error
    (failure : Failure)
    (entity : String) : Answer :=
  { make .error entity with failure := some failure }

/- The file command was carried out on the given file. -/
def fileOk
    (fileId : String) : Answer :=
  { make .fileOk fileId with
    fileId := some fileId
    object := some (.text fileId) }

/- The file command was not carried out. -/
def fileNok
    (failure : Failure)
    (entity : String) : Answer :=
  { make .fileNok entity with failure := some failure }

/- The server was asked to stop. -/
def stop : Answer :=
  make .stop "stop requested"

/- The server is alive. -/
def health : Answer :=
  make .health "alive"

/- The command was carried out. -/
def isSuccess
    (a : Answer) : Bool :=
  !a.status.isFailure

end Answer

end Courier

------------------------------------------------------------
-- Lines
------------------------------------------------------------

namespace Courier

namespace Answer

/- The number of fields of the line of an answer. -/
def fieldCount : Nat := 5

/- The fields of the line of an answer. -/
def fields
    (a : Answer) : List String :=
  [toString a.status.code,
    a.entity,
    toString a.dataLength.toNat,
    a.fileId.getD "",
    (a.failure.map Failure.name).getD ""]

/- The line of an answer. -/
def toLine
    (a : Answer) : Except ProtocolError String :=
  Line.join a.fields a.object

/- The status that a field spells. -/
def statusOfField
    (field : String) : Except ProtocolError Status :=
  match Numeral.integer? 32 field with
  | none => .error (.malformed (.badStatus field))
  | some code =>
      match Status.ofCode code with
      | .ok s => .ok s
      | .error cause => .error (.malformed cause)

/- The failure that a field spells. -/
def failureOfField
    (field : String) :
    Except ProtocolError (Option Failure) :=
  if field.isEmpty then
    .ok none
  else
    match Failure.ofName field with
    | .ok f => .ok (some f)
    | .error e => .error e

/- The answer that fields and an attached object spell. -/
def ofFields
    (fields : List String)
    (object : Option Json) : Except ProtocolError Answer := do
  match fields with
  | [code, entity, length, fileId, failureName] =>
      let status ← statusOfField code
      let failure ← failureOfField failureName
      if failure.isSome && !status.isFailure then
        throw (.malformed .failureOnSuccess)
      let dataLength ← Line.length length
      return {
        status := status
        entity := entity
        dataLength := dataLength
        fileId := Line.optional fileId
        failure := failure
        object := object }
  | _ =>
      throw (.malformed (.fieldCount fieldCount fields.length))

/- The answer of a line. -/
def ofLine
    (line : String) : Except ProtocolError Answer :=
  match Line.split line fieldCount with
  | .error e => .error e
  | .ok (fields, object) => ofFields fields object

end Answer

end Courier

------------------------------------------------------------
-- JSON
------------------------------------------------------------

namespace Courier

namespace Answer

/- The members of an answer in JSON. -/
def memberNames : List String :=
  ["status", "entity", "dataLength", "fileId", "failure",
    "object"]

/- The members of an answer, in their order. -/
def members
    (a : Answer) : List (String × Json) :=
  [("status", Json.ofInt a.status.code),
    ("entity", .text a.entity),
    ("dataLength", Json.ofNat a.dataLength.toNat)] ++
    Command.optionalMember "fileId" (a.fileId.map .text) ++
    Command.optionalMember "failure"
      (a.failure.map fun f => .text f.name) ++
    Command.optionalMember "object" a.object

/- The JSON text of an answer. -/
def toJson
    (a : Answer) : String :=
  Json.renderMembers a.members

/- A status in JSON is its code. -/
def status?
    (d : Document) : Option Status :=
  (Record.integer? d).bind Status.ofCode?

/-
  A failure in JSON is its name, or an object with its name
  and null.
-/
def failure? : Document → Option Failure
  | .text s => s.bind Failure.ofName?
  | .object [(name, .null)] => name.bind Failure.ofName?
  | _ => none

/- The answer that a document spells. -/
def ofDocument?
    (d : Document) : Option Answer :=
  match Record.members? memberNames d with
  | some [status, entity, dataLength, fileId, failure,
      object] => do
      let status ← Record.required? status? status
      let entity ← Record.orDefault? Record.text? "" entity
      let dataLength ←
        Record.orDefault? Record.word? 0 dataLength
      let fileId ← Record.optional? Record.text? fileId
      let failure ← Record.optional? failure? failure
      let object ← Record.optional? Record.value? object
      return {
        status := status
        entity := entity
        dataLength := dataLength
        fileId := fileId
        failure := failure
        object := object }
  | _ => none

/- The answer of a JSON text. -/
def ofJson
    (text : String) : Except ProtocolError Answer :=
  match (Document.read? text.toList).bind ofDocument? with
  | some a => .ok a
  | none => .error .notJson

end Answer

end Courier
