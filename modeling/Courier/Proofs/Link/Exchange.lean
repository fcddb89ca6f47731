import Courier.Link
import Courier.Proofs.Envelope.Received
import Courier.Proofs.Envelope.Size
import Courier.Proofs.Server.Keeping
import Courier.Proofs.Server.Response
import Courier.Proofs.Stream.Reading

/-
  One exchange on a link, as both sides see it.

  The server reads the command that the client has framed,
  and the client reads the answer that the server has
  framed, as long as neither frame is too large.

  Key definitions include:
    * `Frame.size`
    * `Server.Hears`

  Key theorems include:
    * `Server.exchange_of_ofLine`
    * `Server.dial_cases`
    * `Server.Hears.receive_cases`
    * `Server.Hears.receive_of_isWhole`
-/

------------------------------------------------------------
-- Frames
------------------------------------------------------------

namespace Courier

namespace Frame

/- The size of a message that its frame announces. -/
def size
    (bytes : Bytes) : Nat :=
  Bytes.toWord (bytes.take 4)

/- The frame of a line announces the size of the line. -/
theorem size_of_encode
    {line : String}
    {frame : Bytes}
    (rest : Bytes)
    (hFrame : encode line = .ok frame) :
    size (frame ++ rest) =
      (Utf8.encode line.toList).length := by
  rcases encode_eq_ok_iff.mp hFrame with ⟨hShort, rfl⟩
  unfold maxLength at hShort
  rw [size, List.append_assoc,
    List.take_left' (Bytes.length_ofWord _)]
  exact Bytes.toWord_ofWord (by omega)

/- No frame announces more than its four octets can say. -/
theorem size_le
    (bytes : Bytes) :
    size bytes ≤ maxLength := by
  have hFold (rest : Bytes) (n k : Nat) (hLt : n < 256 ^ k) :
      rest.foldl (fun n b => n * 256 + b.toNat) n <
        256 ^ (k + rest.length) := by
    induction rest generalizing n k with
    | nil => exact hLt
    | cons b rest ih =>
        have hOctet := b.toNat_lt
        have hNext : n * 256 + b.toNat < 256 ^ (k + 1) := by
          rw [Nat.pow_succ]
          omega
        have hAll := ih (n * 256 + b.toNat) (k + 1) hNext
        rw [List.foldl_cons, List.length_cons,
          show k + (rest.length + 1) = k + 1 + rest.length by
            omega]
        exact hAll
  have hWord := hFold (bytes.take 4) 0 0 (by decide)
  have hFour : 256 ^ (0 + (bytes.take 4).length) ≤ 256 ^ 4 := by
    apply Nat.pow_le_pow_right (by decide)
    rw [Nat.zero_add]
    exact List.length_take_le _ _
  exact Nat.le_of_lt_succ (Nat.lt_of_lt_of_le hWord hFour)

/- A command is written as its frame, or not at all. -/
theorem writeCommand_cases
    {w : Stream.Writer}
    (limit : Nat)
    (c : Command)
    (hOpen : w.IsOpen) :
    (∃ e, writeCommand limit w c = ⟨some (.error e), 0, w⟩) ∨
      ∃ line frame w',
        c.toLine = .ok line ∧
          encode line = .ok frame ∧
          writeCommand limit w c = ⟨some (.ok ()), 0, w'⟩ ∧
          w'.IsOpen ∧
          w'.written = w.written ++ frame := by
  unfold writeCommand
  cases c.toLine with
  | error e => exact Or.inl ⟨e, rfl⟩
  | ok line =>
      cases hFrame : encode line with
      | error e =>
          exact
            Or.inl ⟨e, write_of_encode_error limit hFrame⟩
      | ok frame =>
          rcases write_of_encode limit hOpen hFrame with
            ⟨w', hWrite, hOpen', hWritten⟩
          exact
            Or.inr
              ⟨line, frame, w', rfl, hFrame, hWrite, hOpen',
                hWritten⟩

end Frame

/- A line that spells no command is no end of a stream. -/
theorem Command.isEnd_of_ofLine
    {line : String}
    {e : ProtocolError}
    (hRead : ofLine line = .error e) :
    e.isEnd = false := by
  unfold ofLine at hRead
  split at hRead
  · next hSplit =>
      cases hRead
      simp only [Line.split] at hSplit
      split at hSplit
      · cases hSplit
      · split at hSplit
        · split at hSplit
          · cases hSplit
          · next hObject =>
              cases hSplit
              unfold Line.decodeObject at hObject
              repeat' split at hObject
              all_goals cases hObject
              all_goals rfl
        · cases hSplit
          rfl
  · unfold ofFields Line.length at hRead
    repeat' split at hRead
    all_goals cases hRead
    · rfl
    · next hLength =>
        repeat' split at hLength
        all_goals cases hLength
        rfl
    · rfl

end Courier

------------------------------------------------------------
-- The Side of the Server
------------------------------------------------------------

namespace Courier

namespace Server

variable {s : Server}
variable {line : String}
variable {frame body : Bytes}

/- The server reads the line that was framed. -/
theorem request_of_encode
    (hFrame : Frame.encode line = .ok frame)
    (hFits : Frame.size (frame ++ body) ≤ s.maxMessageSize) :
    ∃ rest,
      s.request (.ofBytes (frame ++ body)) =
          ⟨some (Command.ofLine line), 0, rest⟩ ∧
        rest.Holds body := by
  rw [Frame.size_of_encode body hFrame] at hFits
  exact
    Frame.readMessage_of_encode Command.ofLine s.readTimeout
      hFrame (Stream.Reader.holds_ofBytes _) hFits

/- Where nothing is sent, nothing happens. -/
theorem exchange_nil
    (s : Server) :
    (s.exchange []).server = s ∧
      (s.exchange []).writer.written = [] := by
  have hRead :
      (s.request (.ofBytes [])).outcome =
        some (.error (.io .unexpectedEnd)) :=
    Frame.readMessage_of_nil Command.ofLine _ _
      (Stream.Reader.holds_ofBytes [])
  constructor
  · exact server_handle_of_error hRead
  · unfold exchange handle
    rw [← request]
    simp only [hRead]
    rfl

/- What the server writes to a line. -/
theorem written_exchange
    {rest : Stream.Reader}
    (hRead :
      s.request (.ofBytes (frame ++ body)) =
        ⟨some (Command.ofLine line), 0, rest⟩) :
    (s.exchange (frame ++ body)).writer.written =
      bytesOf (s.respond? rest (Command.ofLine line)) := by
  have hWritten :=
    written_handle (s := s) Stream.Writer.isOpen_endless
      (m := Command.ofLine line) (congrArg (·.outcome) hRead)
      (fun e hError => Command.isEnd_of_ofLine hError)
  rw [hRead] at hWritten
  exact hWritten

/-
  What the server writes to a command and what it has become
  after that.
-/
theorem exchange_of_ofLine
    {c : Command}
    (hFrame : Frame.encode line = .ok frame)
    (hFits : Frame.size (frame ++ body) ≤ s.maxMessageSize)
    (hLine : Command.ofLine line = .ok c) :
    ∃ rest : Stream.Reader,
      rest.Holds body ∧
        (s.exchange (frame ++ body)).writer.written =
          bytesOf (s.respond? rest (.ok c)) ∧
        s.after (frame ++ body) =
          if c.hasVerb Command.uploadVerb then
            (s.receive c rest).server
          else if c.hasVerb Command.downloadVerb then
            (s.send c .endless).server
          else
            (s.process c).2 := by
  rcases request_of_encode hFrame hFits with
    ⟨rest, hRead, hRest⟩
  have hWritten := written_exchange hRead
  rw [hLine] at hWritten hRead
  have hServer :=
    server_handle_of_ok (w := .endless)
      (congrArg (·.outcome) hRead)
  rw [hRead] at hServer
  exact ⟨rest, hRest, hWritten, hServer⟩

/- A line that is no command changes nothing. -/
theorem exchange_of_error
    {e : ProtocolError}
    (hFrame : Frame.encode line = .ok frame)
    (hFits : Frame.size (frame ++ body) ≤ s.maxMessageSize)
    (hLine : Command.ofLine line = .error e) :
    (s.exchange (frame ++ body)).writer.written =
        (Response.only (.error .malformed e.message)).bytes ∧
      s.after (frame ++ body) = s := by
  rcases request_of_encode hFrame hFits with ⟨rest, hRead, -⟩
  have hWritten := written_exchange hRead
  rw [hLine] at hWritten hRead
  exact
    ⟨hWritten,
      server_handle_of_error (congrArg (·.outcome) hRead)⟩

end Server

end Courier

------------------------------------------------------------
-- The Side of the Client
------------------------------------------------------------

namespace Courier

namespace Server

/-
  A connection to the server that takes everything and has
  taken the given bytes.
-/
structure Hears
    (s : Server)
    (k : Connection)
    (sent : Bytes) : Prop where
  isOpen : k.writer.IsOpen
  written : k.writer.written = sent
  reply : k.reply = s.connection.reply

variable {s : Server}
variable {settings : ClientSettings}
variable {c : Command}
variable {k : Connection}
variable {sent : Bytes}
variable {x : Response}

/-
  A command is sent as its frame.  Without a frame nothing
  is sent.
-/
theorem dial_cases
    (s : Server)
    (t : Option Tunnel)
    (settings : ClientSettings)
    (c : Command) :
    (∃ e,
      Wire.dial (s.network t) settings c = ⟨.error e, []⟩) ∨
      ∃ line frame k,
        c.toLine = .ok line ∧
          Frame.encode line = .ok frame ∧
          Wire.dial (s.network t) settings c =
            ⟨.ok k, frame⟩ ∧
          s.Hears k frame := by
  rcases
    Frame.writeCommand_cases (settings.timeLimit c) c
      Stream.Writer.isOpen_endless with
    ⟨e, hWrite⟩ | ⟨line, frame, w, hLine, hFrame, hWrite,
      hOpen, hWritten⟩
  · simp only [Wire.dial, network, connection, hWrite]
    exact Or.inl ⟨_, rfl⟩
  · refine
      Or.inr
        ⟨line, frame, { s.connection with writer := w }, hLine,
          hFrame, ?_, hOpen, hWritten, rfl⟩
    have hSent : w.written = frame := hWritten
    simp only [Wire.dial, network, connection, hWrite,
      Connection.sent, hSent]

/- What arrives is what the server writes. -/
theorem Hears.reader
    (hHears : s.Hears k sent) :
    k.reader = .ofBytes (s.exchange sent).writer.written := by
  rw [Connection.reader, hHears.reply, Connection.sent,
    hHears.written]
  rfl

/- Where nothing is said, no answer is received. -/
theorem Hears.receive_of_nil
    (hHears : s.Hears k sent)
    (hNone : (s.exchange sent).writer.written = []) :
    ∃ e, Wire.receive settings c k = .error e := by
  have hRead :=
    Frame.readMessage_of_nil Answer.ofLine
      settings.maxMessageSize.toNat (settings.timeLimit c)
      (Stream.Reader.holds_ofBytes [])
  rw [Wire.receive, hHears.reader, hNone, Frame.readAnswer]
  simp only [hRead]
  exact ⟨_, rfl⟩

/- The line of an answer that was framed is received. -/
theorem Hears.receive_of_encode
    {line : String}
    {frame payload : Bytes}
    (c : Command)
    (hHears : s.Hears k sent)
    (hFrame : Frame.encode line = .ok frame)
    (hWritten :
      (s.exchange sent).writer.written = frame ++ payload)
    (hFits :
      Frame.size (frame ++ payload) ≤
        settings.maxMessageSize.toNat) :
    ∃ rest : Stream.Reader,
      rest.Holds payload ∧
        (∀ a, Answer.ofLine line = .ok a →
          Wire.receive settings c k = .ok (a, rest)) ∧
        ∀ e, Answer.ofLine line = .error e →
          ∃ f, Wire.receive settings c k = .error f := by
  rw [Frame.size_of_encode payload hFrame] at hFits
  rcases
    Frame.readMessage_of_encode Answer.ofLine
      (settings.timeLimit c) hFrame
      (Stream.Reader.holds_ofBytes (frame ++ payload)) hFits
    with ⟨rest, hRead, hRest⟩
  refine ⟨rest, hRest, ?_, ?_⟩
  · intro a hLine
    rw [Wire.receive, hHears.reader, hWritten,
      Frame.readAnswer, hRead, hLine]
  · intro e hLine
    rw [Wire.receive, hHears.reader, hWritten,
      Frame.readAnswer, hRead, hLine]
    exact ⟨_, rfl⟩

/-
  Whatever the server says, an answer that is received has
  the status of the answer that the server gave.
-/
theorem Hears.receive_cases
    (settings : ClientSettings)
    (c : Command)
    (hHears : s.Hears k sent)
    (hWritten : (s.exchange sent).writer.written = x.bytes)
    (hFits :
      Frame.size (s.exchange sent).writer.written ≤
        settings.maxMessageSize.toNat) :
    (∃ e, Wire.receive settings c k = .error e) ∨
      ∃ a rest,
        Wire.receive settings c k = .ok (a, rest) ∧
          a.status = x.answer.status := by
  rcases x.bytes_cases with
    ⟨line, frame, hLine, hFrame, hBytes⟩ | ⟨-, hBytes⟩
  · rw [hBytes] at hWritten
    rw [hWritten] at hFits
    rcases
      hHears.receive_of_encode c hFrame hWritten hFits with
      ⟨rest, -, hOk, hError⟩
    cases hRead : Answer.ofLine line with
    | error e => exact Or.inl (hError e hRead)
    | ok a =>
        exact
          Or.inr
            ⟨a, rest, hOk a hRead,
              Answer.status_of_ofLine hLine hRead⟩
  · rw [hBytes] at hWritten
    exact Or.inl (hHears.receive_of_nil hWritten)

/-
  A short answer with one whole text is received as it was
  given, with all that follows it.
-/
theorem Hears.receive_of_isWhole
    (settings : ClientSettings)
    (c : Command)
    (hHears : s.Hears k sent)
    (hWritten : (s.exchange sent).writer.written = x.bytes)
    (hFits :
      Frame.size (s.exchange sent).writer.written ≤
        settings.maxMessageSize.toNat)
    (hText : x.answer.HoldsOneText)
    (hWhole : Line.IsWhole x.answer.entity.toList)
    (hShort : x.answer.IsShort) :
    ∃ rest : Stream.Reader,
      Wire.receive settings c k = .ok (x.answer, rest) ∧
        rest.Holds x.payload := by
  rcases Answer.ofLine_of_isWhole hText hWhole with
    ⟨line, hLine, hRead⟩
  rcases Answer.exists_frame_of_isShort hShort hLine with
    ⟨frame, hFrame⟩
  rcases x.bytes_cases with
    ⟨line', frame', hLine', hFrame', hBytes⟩ | ⟨hNone, -⟩
  · rw [hLine] at hLine'
    cases hLine'
    rw [hBytes] at hWritten
    rw [hWritten] at hFits
    rcases
      hHears.receive_of_encode c hFrame' hWritten hFits with
      ⟨rest, hRest, hOk, -⟩
    exact ⟨rest, hOk _ hRead, hRest⟩
  · exact absurd hFrame (hNone line frame hLine)

end Server

end Courier
