import Courier.Envelope.Line
import Courier.Json.Record

/-
  Commands: what one side asks the other to do.

  A command names a dispatcher and a verb for it.  The
  fields about its route and its time limit stay with the
  sender; all others travel, either as a line or as JSON.

  Key definitions include:
    * `Command`
    * `Command.make`
    * `Command.internal`
    * `Command.toLine`
    * `Command.ofLine`
    * `Command.toJson`
    * `Command.ofJson`
-/

------------------------------------------------------------
-- Commands
------------------------------------------------------------

namespace Courier

/- How a command reaches the server. -/
inductive Mode where
| sockets : Mode
| web : Mode
deriving DecidableEq, Repr

/- A request to a dispatcher of a server. -/
structure Command where
  serverName : String
  dispatcherId : String
  name : String
  entity : String
  dataLength : UInt64
  fileId : Option String
  domain : Option String
  object : Option Json
  host : String
  port : UInt16
  mode : Mode
  forceSockets : Bool
  timeoutMs : UInt64
deriving Repr

namespace Command

/- The dispatcher id of the commands that every server has. -/
def internalId : String := "cmdlink-internal"

/- The verb that stops a server. -/
def stopVerb : String := "STOP"

/- The verb that asks whether a server is alive. -/
def healthVerb : String := "HEALTH"

/- The verb that sends a file to a server. -/
def uploadVerb : String := "FILE_RECEIVE_REQUEST"

/- The verb that asks a server for a file. -/
def downloadVerb : String := "FILE_REQUEST"

/- The verb that deletes a file on a server. -/
def deleteVerb : String := "FILE_DELETE"

/- The time limit of a command that sets none. -/
def defaultTimeoutMs : UInt64 := 5000

/- A command with nothing but its dispatcher and its verb. -/
def make
    (dispatcherId name : String) : Command :=
  { serverName := ""
    dispatcherId := dispatcherId
    name := name
    entity := ""
    dataLength := 0
    fileId := none
    domain := none
    object := none
    host := ""
    port := 0
    mode := .sockets
    forceSockets := false
    timeoutMs := defaultTimeoutMs }

/- A command to the server itself. -/
def internal
    (name : String) : Command :=
  make internalId name

/- The command that stops a server. -/
def stop : Command :=
  internal stopVerb

/- The command that asks whether a server is alive. -/
def health : Command :=
  internal healthVerb

end Command

end Courier

------------------------------------------------------------
-- Kinds
------------------------------------------------------------

namespace Courier

namespace Command

/- The command is for the server itself. -/
def isInternal
    (c : Command) : Bool :=
  c.dispatcherId == internalId

/- The command has the given verb of the server itself. -/
def hasVerb
    (c : Command)
    (verb : String) : Bool :=
  c.isInternal && c.name == verb

/- The command stops the server. -/
def isStop
    (c : Command) : Bool :=
  c.hasVerb stopVerb

/- The command asks whether the server is alive. -/
def isHealth
    (c : Command) : Bool :=
  c.hasVerb healthVerb

/- The bytes of a file follow the command or its answer. -/
def isFileStream
    (c : Command) : Bool :=
  c.hasVerb uploadVerb || c.hasVerb downloadVerb

/- The value of a key in the verb. -/
def messageValue
    (c : Command)
    (key : String) : Option String :=
  Line.messageValue c.name key

end Command

end Courier

------------------------------------------------------------
-- Lines
------------------------------------------------------------

namespace Courier

namespace Command

/- The number of fields of the line of a command. -/
def fieldCount : Nat := 7

/- The fields of the line of a command. -/
def fields
    (c : Command) : List String :=
  [c.serverName,
    c.dispatcherId,
    c.name,
    c.entity,
    toString c.dataLength.toNat,
    c.fileId.getD "",
    c.domain.getD ""]

/- The line of a command. -/
def toLine
    (c : Command) : Except ProtocolError String :=
  Line.join c.fields c.object

/- The command that fields and an attached object spell. -/
def ofFields
    (fields : List String)
    (object : Option Json) : Except ProtocolError Command :=
  match fields with
  | [serverName, dispatcherId, name, entity, length, fileId,
      domain] =>
      if dispatcherId.isEmpty || name.isEmpty then
        .error (.malformed .unnamedCommand)
      else
        match Line.length length with
        | .error e => .error e
        | .ok dataLength =>
            .ok
              { make dispatcherId name with
                serverName := serverName
                entity := entity
                dataLength := dataLength
                fileId := Line.optional fileId
                domain := Line.optional domain
                object := object }
  | _ =>
      .error (.malformed (.fieldCount fieldCount fields.length))

/- The command of a line. -/
def ofLine
    (line : String) : Except ProtocolError Command :=
  match Line.split line fieldCount with
  | .error e => .error e
  | .ok (fields, object) => ofFields fields object

end Command

end Courier

------------------------------------------------------------
-- JSON
------------------------------------------------------------

namespace Courier

namespace Command

/- The members of a command in JSON. -/
def memberNames : List String :=
  ["serverName", "dispatcherId", "name", "entity",
    "dataLength", "fileId", "domain", "object"]

/- A member for a value that may be absent. -/
def optionalMember
    (name : String)
    (value : Option Json) : List (String × Json) :=
  match value with
  | some v => [(name, v)]
  | none => []

/- The members that travel, in their order. -/
def members
    (c : Command) : List (String × Json) :=
  [("serverName", .text c.serverName),
    ("dispatcherId", .text c.dispatcherId),
    ("name", .text c.name),
    ("entity", .text c.entity),
    ("dataLength", Json.ofNat c.dataLength.toNat)] ++
    optionalMember "fileId" (c.fileId.map .text) ++
    optionalMember "domain" (c.domain.map .text) ++
    optionalMember "object" c.object

/- The JSON text of a command. -/
def toJson
    (c : Command) : String :=
  Json.renderMembers c.members

/- The command that a document spells. -/
def ofDocument?
    (d : Document) : Option Command :=
  match Record.members? memberNames d with
  | some [serverName, dispatcherId, name, entity, dataLength,
      fileId, domain, object] => do
      let serverName ←
        Record.orDefault? Record.text? "" serverName
      let dispatcherId ←
        Record.required? Record.text? dispatcherId
      let name ← Record.required? Record.text? name
      let entity ← Record.orDefault? Record.text? "" entity
      let dataLength ←
        Record.orDefault? Record.word? 0 dataLength
      let fileId ← Record.optional? Record.text? fileId
      let domain ← Record.optional? Record.text? domain
      let object ← Record.optional? Record.value? object
      return {
        make dispatcherId name with
        serverName := serverName
        entity := entity
        dataLength := dataLength
        fileId := fileId
        domain := domain
        object := object }
  | _ => none

/- The command of a JSON text. -/
def ofJson
    (text : String) : Except ProtocolError Command :=
  match (Document.read? text.toList).bind ofDocument? with
  | some c => .ok c
  | none => .error .notJson

end Command

end Courier
