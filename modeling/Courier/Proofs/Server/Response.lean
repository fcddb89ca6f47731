import Courier.Proofs.Stream.Copy
import Courier.Proofs.Stream.Frame
import Courier.Server.Connection

/-
  What a server writes on a connection.

  The response to a message is an answer and the bytes that
  follow it.  The server writes the frame of that answer and
  these bytes, as far as the other side takes them, and
  nothing if the answer has no frame.

  Key definitions include:
    * `Server.Response`
    * `Server.Response.bytes`
    * `Server.Response.taken`
    * `Server.respond?`

  Key theorems include:
    * `Server.written_send`
    * `Server.written_handle_taken`
    * `Server.written_handle`
-/

------------------------------------------------------------
-- Responses
------------------------------------------------------------

namespace Courier

namespace Server

/- A command has one verb. -/
theorem hasVerb_other
    {c : Command}
    {verb : String}
    (other : String)
    (hVerb : c.hasVerb verb = true)
    (hNe : verb ≠ other) :
    c.hasVerb other = false := by
  simp only [Command.hasVerb, Bool.and_eq_true,
    beq_iff_eq] at hVerb
  simp [Command.hasVerb, hVerb.2, hNe]

/- What is read first on a connection. -/
def request
    (s : Server)
    (input : Stream.Reader) : Frame.Received Command :=
  Frame.readCommand s.maxMessageSize s.readTimeout input

/- An answer and the bytes that follow it. -/
structure Response where
  answer : Answer
  payload : Bytes

/- An answer alone. -/
def Response.only
    (a : Answer) : Response :=
  { answer := a, payload := [] }

/- The bytes of a response, none if it has no frame. -/
def Response.bytes
    (x : Response) : Bytes :=
  match x.answer.toLine with
  | .error _ => []
  | .ok line =>
      match Frame.encode line with
      | .error _ => []
      | .ok frame => frame ++ x.payload

/- All bytes that are said to a message, if it gets any. -/
def bytesOf : Option Response → Bytes
  | none => []
  | some x => x.bytes

/-
  The bytes of a response that get through to a client.  The
  bytes behind the answer are not sent if that does not get
  on its way.
-/
def Response.taken
    (x : Response)
    (w : Stream.Writer) : Bytes :=
  w.accepted
    (if w.flushOutcome = .done () then x.bytes
    else (Response.only x.answer).bytes)

/- All bytes that get through, if anything is said. -/
def takenOf
    (w : Stream.Writer) : Option Response → Bytes
  | none => []
  | some x => x.taken w

/- The response to a command that asks for a file. -/
def downloadResponse
    (s : Server)
    (c : Command) : Response :=
  match s.wrongServer? c, s.store with
  | some refusal, _ => .only refusal
  | none, none => .only noFiles
  | none, some files =>
      let fileId := c.fileId.getD c.entity
      match files.find fileId c.domain with
      | (.error e, _) => .only (storageFailure e.message)
      | (.ok none, _) => .only (noSuchFile fileId)
      | (.ok (some d), files') =>
          match files'.temp.read d.copy with
          | .error e => .only (storageFailure e.message)
          | .ok content =>
              { answer :=
                  { Answer.fileOk d.fileId with
                    dataLength := UInt64.ofNat content.length }
                payload := content }

/-
  The response to a message, absent if it is the command to
  stop.  An upload is read from the rest of the connection.
-/
def respond?
    (s : Server)
    (rest : Stream.Reader) :
    Except ProtocolError Command → Option Response
  | .error e => some (.only (.error .malformed e.message))
  | .ok c =>
      if c.hasVerb Command.uploadVerb then
        some (.only (s.receive c rest).answer)
      else if c.hasVerb Command.downloadVerb then
        some (s.downloadResponse c)
      else if c.isStop then
        none
      else
        some (.only (s.process c).1)

end Server

end Courier

------------------------------------------------------------
-- Sending a Copy
------------------------------------------------------------

namespace Courier

namespace Download

variable {d : Download}
variable {temp : TemporaryFiles}

/- Sending a copy does not remove it yet. -/
theorem temp_copyTo
    (d : Download)
    (temp : TemporaryFiles)
    (total size limit : Nat)
    (w : Stream.Writer) :
    (d.copyTo temp total size limit w).temp = temp := by
  unfold copyTo
  split <;> rfl

/- Afterwards it is removed, however it was sent. -/
theorem temp_streamThen
    (remove :
      TemporaryFiles → Except IoError Unit × TemporaryFiles)
    (d : Download)
    (temp : TemporaryFiles)
    (total size limit : Nat)
    (w : Stream.Writer) :
    (d.streamThen remove temp total size limit w).temp =
      (remove temp).2 := by
  simp only [streamThen, temp_copyTo]

/- A whole copy is written as far as there is room. -/
theorem written_streamTo
    {content : Bytes}
    (size limit : Nat)
    (w : Stream.Writer)
    (hRead : temp.read d.copy = .ok content) :
    (d.streamTo temp content.length size limit
        w).writer.written =
      w.written ++ w.accepted content := by
  simp only [streamTo, streamThen, copyTo, hRead,
    Copy.written_through_ofBytes]

end Download

end Courier

------------------------------------------------------------
-- Writing a Response
------------------------------------------------------------

namespace Courier

namespace Server

variable {w : Stream.Writer}

/- An answer that has a line is written as that line. -/
theorem reply_of_toLine
    {a : Answer}
    {line : String}
    (s : Server)
    (w : Stream.Writer)
    (hLine : a.toLine = .ok line) :
    s.reply w a = Frame.write s.readTimeout w line := by
  rw [reply, Frame.writeAnswer, hLine, Frame.writeLine]

/- An answer without a frame is not written. -/
theorem reply_of_error
    (s : Server)
    (w : Stream.Writer)
    {a : Answer}
    (hNone : ∀ line frame,
      a.toLine = .ok line → Frame.encode line ≠ .ok frame) :
    ∃ e, s.reply w a = ⟨some (.error e), 0, w⟩ := by
  unfold reply Frame.writeAnswer
  cases hLine : a.toLine with
  | error e => exact ⟨e, rfl⟩
  | ok line =>
      cases hFrame : Frame.encode line with
      | error e =>
          exact
            ⟨e, Frame.write_of_encode_error s.readTimeout
              hFrame⟩
      | ok frame => exact absurd hFrame (hNone line frame hLine)

namespace Response

variable {x : Response}

/- An answer with a frame is sent in it, before the rest. -/
theorem bytes_of_encode
    {line : String}
    {frame : Bytes}
    (hLine : x.answer.toLine = .ok line)
    (hFrame : Frame.encode line = .ok frame) :
    x.bytes = frame ++ x.payload := by
  simp only [bytes, hLine, hFrame]

/- An answer without a frame is not sent, nor is the rest. -/
theorem bytes_of_not_encode
    (hNone : ∀ line frame,
      x.answer.toLine = .ok line →
        Frame.encode line ≠ .ok frame) :
    x.bytes = [] := by
  unfold bytes
  cases hLine : x.answer.toLine with
  | error e => rfl
  | ok line =>
      cases hFrame : Frame.encode line with
      | error e => simp only [hFrame]
      | ok frame => exact absurd hFrame (hNone line frame hLine)

/- When a response has bytes, and which. -/
theorem bytes_cases
    (x : Response) :
    (∃ line frame,
      x.answer.toLine = .ok line ∧
        Frame.encode line = .ok frame ∧
        x.bytes = frame ++ x.payload) ∨
      ((∀ line frame,
          x.answer.toLine = .ok line →
            Frame.encode line ≠ .ok frame) ∧
        x.bytes = []) := by
  by_cases hSome :
      ∃ line frame,
        x.answer.toLine = .ok line ∧
          Frame.encode line = .ok frame
  · rcases hSome with ⟨line, frame, hLine, hFrame⟩
    exact
      Or.inl
        ⟨line, frame, hLine, hFrame,
          bytes_of_encode hLine hFrame⟩
  · have hNone :
        ∀ line frame,
          x.answer.toLine = .ok line →
            Frame.encode line ≠ .ok frame := by
      intro line frame hLine hFrame
      exact hSome ⟨line, frame, hLine, hFrame⟩
    exact Or.inr ⟨hNone, bytes_of_not_encode hNone⟩

/-
  What gets through of a response with a frame: all that
  there is room for once the frame is on its way, and else
  as much of the frame.
-/
theorem taken_of_encode
    {line : String}
    {frame : Bytes}
    (w : Stream.Writer)
    (hLine : x.answer.toLine = .ok line)
    (hFrame : Frame.encode line = .ok frame) :
    x.taken w =
      if w.capacity frame.length = frame.length ∧
          w.flushOutcome = .done () then
        w.accepted (frame ++ x.payload)
      else w.accepted frame := by
  have hAlone : (only x.answer).bytes = frame ++ [] :=
    bytes_of_encode hLine hFrame
  rw [taken, bytes_of_encode hLine hFrame, hAlone,
    List.append_nil]
  by_cases hFlush : w.flushOutcome = .done ()
  · rw [if_pos hFlush]
    rcases Nat.lt_or_eq_of_le (w.capacity_le frame.length)
      with hRefused | hRoom
    · rw [if_neg (by omega),
        Stream.Writer.accepted_append_of_lt hRefused]
    · rw [if_pos ⟨hRoom, hFlush⟩]
  · rw [if_neg hFlush, if_neg fun hAll => hFlush hAll.2]

/- Nothing gets through of a response without a frame. -/
theorem taken_of_not_encode
    (w : Stream.Writer)
    (hNone : ∀ line frame,
      x.answer.toLine = .ok line →
        Frame.encode line ≠ .ok frame) :
    x.taken w = [] := by
  have hAlone : (only x.answer).bytes = [] :=
    bytes_of_not_encode hNone
  rw [taken, bytes_of_not_encode hNone, hAlone, ite_self,
    Stream.Writer.accepted, List.take_nil]

/- An answer alone gets through as far as there is room. -/
theorem taken_only
    (w : Stream.Writer)
    (a : Answer) :
    (only a).taken w = w.accepted (only a).bytes := by
  have hAnswer : (only a).answer = a := rfl
  rw [taken, hAnswer, ite_self]

/- All of a response gets through to an open writer. -/
theorem taken_of_isOpen
    (hOpen : w.IsOpen)
    (x : Response) :
    x.taken w = x.bytes := by
  rw [taken, if_pos hOpen.flush,
    Stream.Writer.accepted_of_isOpen hOpen]

end Response

/- An answer alone is written as far as there is room. -/
theorem written_reply
    (s : Server)
    (w : Stream.Writer)
    (a : Answer) :
    (s.reply w a).writer.written =
      w.written ++ (Response.only a).taken w := by
  rw [Response.taken_only]
  rcases (Response.only a).bytes_cases with
    ⟨line, frame, hLine, hFrame, hBytes⟩ | ⟨hNone, hBytes⟩
  · have hSame : a.toLine = .ok line := hLine
    have hAlone : (Response.only a).payload = [] := rfl
    rw [s.reply_of_toLine w hSame, hBytes, hAlone,
      (Frame.written_write s.readTimeout w hFrame).1,
      List.append_nil]
  · rcases s.reply_of_error (a := a) w hNone with
      ⟨e, hReply⟩
    rw [hReply, hBytes, Stream.Writer.accepted, List.take_nil,
      List.append_nil]

/-
  A copy of a file is written behind its announcement, as
  far as there is room for both.
-/
theorem written_sendCopy
    {files : Store}
    {d : Download}
    {content : Bytes}
    (s : Server)
    (w : Stream.Writer)
    (hRead : files.temp.read d.copy = .ok content) :
    (s.sendCopy files d w).writer.written =
      w.written ++
        Response.taken
          { answer :=
              { Answer.fileOk d.fileId with
                dataLength := UInt64.ofNat content.length }
            payload := content } w := by
  have hLength : d.length files.temp = .ok content.length := by
    simp only [Download.length, hRead]
  generalize hAnswer :
    { Answer.fileOk d.fileId with
      dataLength := UInt64.ofNat content.length } = a
  simp only [sendCopy, hLength, hAnswer]
  rcases
    Response.bytes_cases { answer := a, payload := content }
    with
    ⟨line, frame, hLine, hFrame, -⟩ | ⟨hNone, -⟩
  · rcases Frame.written_write s.readTimeout w hFrame with
      ⟨hWritten, hDone, hAfter⟩
    rw [s.reply_of_toLine (a := a) w hLine,
      Response.taken_of_encode w hLine hFrame]
    split
    · next hOk =>
        -- The announcement is on its way.
        rw [if_pos (hDone.mp hOk)]
        rcases hDone.mp hOk with ⟨hRoom, -⟩
        have hAfter := hAfter hRoom
        simp only [Download.written_streamTo _ _ _ hRead,
          hAfter.written]
        rw [hAfter.accepted_append hRoom, List.append_assoc]
    · next hNot =>
        rw [if_neg fun hAll => hNot (hDone.mpr hAll)]
        exact hWritten
  · rcases s.reply_of_error (a := a) w hNone with ⟨e, hReply⟩
    rw [hReply, Response.taken_of_not_encode w hNone,
      List.append_nil]

/- What is written to a client that asks for a file. -/
theorem written_send
    (s : Server)
    (c : Command)
    (w : Stream.Writer) :
    (s.send c w).writer.written =
      w.written ++ (s.downloadResponse c).taken w := by
  unfold send downloadResponse
  cases s.wrongServer? c with
  | some refusal => exact written_reply s w refusal
  | none =>
  cases s.store with
  | none => exact written_reply s w noFiles
  | some files =>
      simp only
      rcases hFind :
        files.find (c.fileId.getD c.entity) c.domain with
        ⟨found, files'⟩
      rcases found with e | (_ | d)
      · exact written_reply _ w _
      · exact written_reply _ w _
      · cases hRead : files'.temp.read d.copy with
        | error e =>
            have hLength :
                d.length files'.temp = .error e := by
              simp only [Download.length, hRead]
            simp only [sendCopy, hLength, hRead]
            exact written_reply _ w _
        | ok content =>
            simp only [hRead]
            exact written_sendCopy _ w hRead

end Server

end Courier

------------------------------------------------------------
-- Connections
------------------------------------------------------------

namespace Courier

namespace Server

variable {input : Stream.Reader}

/-
  What is written on a connection, to a client that may not
  take all of it.
-/
theorem written_handle_taken
    {m : Except ProtocolError Command}
    (s : Server)
    (w : Stream.Writer)
    (hRead : (s.request input).outcome = some m)
    (hEnd : ∀ e, m = .error e → e.isEnd = false) :
    (s.handle input w).writer.written =
      w.written ++
        takenOf w (s.respond? (s.request input).reader m) := by
  unfold handle
  rw [← request]
  simp only [hRead]
  cases m with
  | error e =>
      simp only [hEnd e rfl, Bool.false_eq_true, if_false]
      exact written_reply _ w _
  | ok c =>
      simp only [carryOut, respond?]
      split
      · exact written_reply _ w _
      split
      · exact written_send s c w
      split
      · rw [takenOf, List.append_nil]
      · exact written_reply _ w _

/- All that is written on a connection. -/
theorem written_handle
    {s : Server}
    {w : Stream.Writer}
    {m : Except ProtocolError Command}
    (hOpen : w.IsOpen)
    (hRead : (s.request input).outcome = some m)
    (hEnd : ∀ e, m = .error e → e.isEnd = false) :
    (s.handle input w).writer.written =
      w.written ++
        bytesOf (s.respond? (s.request input).reader m) := by
  rw [written_handle_taken s w hRead hEnd]
  cases s.respond? (s.request input).reader m with
  | none => rfl
  | some x =>
      rw [takenOf, bytesOf, Response.taken_of_isOpen hOpen]

end Server

end Courier
