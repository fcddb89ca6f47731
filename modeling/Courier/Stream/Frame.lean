import Courier.Envelope.Answer
import Courier.Stream.Writer

/-
  Frames: the length of a line in four octets, the line in
  UTF-8, and a line break.

  Key definitions include:
    * `Frame.encode`
    * `Frame.write`
    * `Frame.read`
    * `Frame.writeCommand`
    * `Frame.readCommand`
    * `Frame.writeAnswer`
    * `Frame.readAnswer`
-/

------------------------------------------------------------
-- Layout
------------------------------------------------------------

namespace Courier

namespace Frame

/- The largest message that is taken if nothing else is set. -/
def defaultMaxSize : Nat := 524288

/- The number of bytes that are copied at once. -/
def defaultBufferSize : Nat := 32768

/- The largest length that four octets can spell. -/
def maxLength : Nat := 4294967295

/- The line break after the body. -/
def terminator : UInt8 := 10

/- The parts of the frame of a line, as they are written. -/
def parts
    (line : String) : Except ProtocolError (List Bytes) :=
  let body := Utf8.encode line.toList
  if body.length ≤ maxLength then
    .ok [Bytes.ofWord body.length, body, [terminator]]
  else
    .error (.messageTooLarge body.length maxLength)

/- The bytes of the frame of a line. -/
def encode
    (line : String) : Except ProtocolError Bytes :=
  match parts line with
  | .ok all => .ok all.flatten
  | .error e => .error e

end Frame

end Courier

------------------------------------------------------------
-- Writing
------------------------------------------------------------

namespace Courier

namespace Frame

/-
  The end of writing a message: absent if it took too long.
-/
structure Sent where
  outcome : Option (Except ProtocolError Unit)
  waited : Nat
  writer : Stream.Writer

/- Write the parts one after the other, then flush. -/
def writeParts
    (limit : Nat)
    (w : Stream.Writer) : List Bytes → Sent
  | [] =>
      let flushed := w.flush limit
      match flushed.outcome with
      | .done () => ⟨some (.ok ()), 0, flushed.writer⟩
      | .failed e =>
          ⟨some (.error (.io e)), 0, flushed.writer⟩
      | .ended | .timedOut =>
          ⟨none, flushed.waited, flushed.writer⟩
  | part :: rest =>
      let step := w.write limit part
      match step.outcome with
      | .done () => writeParts limit step.writer rest
      | .failed e => ⟨some (.error (.io e)), 0, step.writer⟩
      | .ended | .timedOut => ⟨none, step.waited, step.writer⟩

/- Write the frame of a line within the limit. -/
def write
    (limit : Nat)
    (w : Stream.Writer)
    (line : String) : Sent :=
  match parts line with
  | .error e => ⟨some (.error e), 0, w⟩
  | .ok all => writeParts limit w all

/-
  Write the frame of a message within the limit.  Nothing is
  written if the message has no line.
-/
def writeLine
    (limit : Nat)
    (w : Stream.Writer)
    (line : Except ProtocolError String) : Sent :=
  match line with
  | .error e => ⟨some (.error e), 0, w⟩
  | .ok text => write limit w text

/- Write the frame of a command. -/
def writeCommand
    (limit : Nat)
    (w : Stream.Writer)
    (c : Command) : Sent :=
  writeLine limit w c.toLine

/- Write the frame of an answer. -/
def writeAnswer
    (limit : Nat)
    (w : Stream.Writer)
    (a : Answer) : Sent :=
  writeLine limit w a.toLine

end Frame

end Courier

------------------------------------------------------------
-- Reading
------------------------------------------------------------

namespace Courier

namespace Frame

/-
  The end of reading a message: absent if it took too long.
-/
structure Received (α : Type) where
  outcome : Option (Except ProtocolError α)
  waited : Nat
  reader : Stream.Reader

/- Go on with what was read exactly. -/
def Received.next
    {α : Type}
    (limit count : Nat)
    (waited : Nat)
    (r : Stream.Reader)
    (go : Bytes → Nat → Stream.Reader → Received α) :
    Received α :=
  let step := r.readExact count (limit - waited)
  let waited := waited + step.waited
  match step.outcome with
  | .done bytes => go bytes waited step.reader
  | .ended =>
      ⟨some (.error (.io .unexpectedEnd)), waited, step.reader⟩
  | .failed e => ⟨some (.error (.io e)), waited, step.reader⟩
  | .timedOut => ⟨none, waited, step.reader⟩

/- The line of a body. -/
def lineOfBody
    (body : Bytes) : Except ProtocolError String :=
  match Utf8.decode body with
  | .ok chars => .ok (String.ofList chars)
  | .error fault => .error (.malformed (.notUtf8 fault))

/-
  Read one frame of at most `max` bytes within the limit.
  Of a longer frame nothing but the length is read.
-/
def read
    (max limit : Nat)
    (r : Stream.Reader) : Received String :=
  Received.next limit 4 0 r fun word waited r =>
    let length := Bytes.toWord word
    if max < length then
      ⟨some (.error (.messageTooLarge length max)), waited, r⟩
    else
      Received.next limit length waited r fun body waited r =>
        Received.next limit 1 waited r fun last waited r =>
          if last = [terminator] then
            ⟨some (lineOfBody body), waited, r⟩
          else
            ⟨some (.error .missingTerminator), waited, r⟩

/- Read one frame and the message in its line. -/
def readMessage
    {α : Type}
    (ofLine : String → Except ProtocolError α)
    (max limit : Nat)
    (r : Stream.Reader) : Received α :=
  let frame := read max limit r
  { outcome :=
      match frame.outcome with
      | none => none
      | some (.error e) => some (.error e)
      | some (.ok line) => some (ofLine line)
    waited := frame.waited
    reader := frame.reader }

/- Read the frame of a command. -/
def readCommand
    (max limit : Nat)
    (r : Stream.Reader) : Received Command :=
  readMessage Command.ofLine max limit r

/- Read the frame of an answer. -/
def readAnswer
    (max limit : Nat)
    (r : Stream.Reader) : Received Answer :=
  readMessage Answer.ofLine max limit r

end Frame

end Courier
