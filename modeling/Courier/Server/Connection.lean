import Courier.Server.Transfer

/-
  One connection to a server, which carries one command.

  The command has to arrive within the limit.  A connection
  without a command is dropped in silence; a malformed
  command is answered, and the connection is dropped then.
  The command to stop is carried out without an answer.

  Key definitions include:
    * `Server.Exchange`
    * `Server.carryOut`
    * `Server.handle`
-/

------------------------------------------------------------
-- Exchanges
------------------------------------------------------------

namespace Courier

namespace Server

/-
  The end of a connection.  It is closed in good order if a
  command was read, and dropped otherwise.
-/
structure Exchange where
  server : Server
  reader : Stream.Reader
  writer : Stream.Writer
  waited : Nat
  isClosed : Bool

/- Answer at the end of an exchange. -/
def Exchange.answer
    (x : Exchange)
    (a : Answer) : Exchange :=
  let replied := x.server.reply x.writer a
  { x with
    writer := replied.writer
    waited := x.waited + replied.waited }

end Server

end Courier

------------------------------------------------------------
-- Connections
------------------------------------------------------------

namespace Courier

namespace Server

/- Carry out the command of a connection. -/
def carryOut
    (x : Exchange)
    (c : Command) : Exchange :=
  if c.hasVerb Command.uploadVerb then
    let got := x.server.receive c x.reader
    { x with
      server := got.server
      reader := got.reader
      waited := x.waited + got.waited }.answer got.answer
  else if c.hasVerb Command.downloadVerb then
    let sent := x.server.send c x.writer
    { x with
      server := sent.server
      writer := sent.writer
      waited := x.waited + sent.waited }
  else
    let (answer, server) := x.server.process c
    let x := { x with server := server }
    if c.isStop then x else x.answer answer

/- Serve a connection from its first byte to its end. -/
def handle
    (s : Server)
    (r : Stream.Reader)
    (w : Stream.Writer) : Exchange :=
  let request :=
    Frame.readCommand s.maxMessageSize s.readTimeout r
  let x : Exchange :=
    { server := s
      reader := request.reader
      writer := w
      waited := request.waited
      isClosed := false }
  match request.outcome with
  | none => x
  | some (.error e) =>
      if e.isEnd then x
      else x.answer (.error .malformed e.message)
  | some (.ok c) => carryOut { x with isClosed := true } c

end Server

end Courier
