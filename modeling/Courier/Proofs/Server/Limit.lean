import Courier.Proofs.Server.Absence
import Courier.Proofs.Server.Answering
import Courier.Proofs.Server.Echo
import Courier.Proofs.Stream.Delimiting
import Courier.Settings.Validation

/-
  Answers to clients with the same limit on messages.

  Only who reads a frame looks at the limit.  A server sends
  its answer whatever the length, and a client with the same
  limit reads it exactly if it is within the limit.  That is
  so for all answers that repeat nothing, and for those that
  repeat something not too long.

  Key definitions include:
    * `Server.Response.IsReadUpTo`

  Key theorems include:
    * `Frame.outcome_readMessage_of_encode`
    * `Server.written_within_limit`
-/

------------------------------------------------------------
-- Frames and Limits
------------------------------------------------------------

namespace Courier

namespace Frame

/-
  A frame is read as its line if that is within the limit,
  and otherwise it is refused for its length.
-/
theorem outcome_readMessage_of_encode
    {α : Type}
    {line : String}
    {frame : Bytes}
    {limit : Nat}
    {r : Stream.Reader}
    (ofLine : String → Except ProtocolError α)
    (max : Nat)
    (hFrame : encode line = .ok frame)
    (hFront : frame <+: (r.delivery limit).bytes) :
    (readMessage ofLine max limit r).outcome =
      some
        (if line.utf8ByteSize ≤ max then
          ofLine line
        else
          .error
            (.messageTooLarge line.utf8ByteSize max)) := by
  rcases encode_eq_ok_iff.mp hFrame with ⟨hShort, hOctets⟩
  rw [← Utf8.length_encode]
  by_cases hFits : (Utf8.encode line.toList).length ≤ max
  · have hIs : IsFrame max line frame :=
      ⟨hOctets, hFits, hShort⟩
    rcases read_of_isFrame hIs hFront with
      ⟨waited, r', hRead, -⟩
    rw [if_pos hFits]
    simp only [readMessage, hRead]
  · rcases hFront with ⟨rest, hRest⟩
    have hWord :
        Bytes.toWord
            (Bytes.ofWord (Utf8.encode line.toList).length) =
          (Utf8.encode line.toList).length := by
      unfold maxLength at hShort
      exact Bytes.toWord_ofWord (by omega)
    have hDelivery :
        r.delivery limit =
          ⟨Bytes.ofWord (Utf8.encode line.toList).length ++
            (Utf8.encode line.toList ++ [terminator] ++ rest),
            (r.delivery limit).ending⟩ := by
      rw [← List.append_assoc, ← hOctets, hRest]
    rcases
      read_tooLarge hDelivery (Bytes.length_ofWord _)
        (by rwa [hWord, ← Nat.not_le]) with
      ⟨waited, r', hRead, -⟩
    rw [if_neg hFits]
    simp only [readMessage, hRead, hWord]

end Frame

end Courier

------------------------------------------------------------
-- Answers and Limits
------------------------------------------------------------

namespace Courier

namespace Server

/-
  If the answer has a frame, that is sent, and whoever reads
  it with the limit gets the answer if it is within the
  limit, and otherwise only learns how long it is.
-/
def Response.IsReadUpTo
    (x : Response)
    (max : Nat) : Prop :=
  ∀ line frame,
    x.answer.toLine = .ok line →
      Frame.encode line = .ok frame →
        x.bytes = frame ++ x.payload ∧
          line.utf8ByteSize = x.answer.size ∧
          ∀ limit (r : Stream.Reader),
            frame <+: (r.delivery limit).bytes →
              (Frame.readAnswer max limit r).outcome =
                some
                  (if x.answer.size ≤ max then
                    Answer.ofLine line
                  else
                    .error
                      (.messageTooLarge x.answer.size max))

/- That is so for all responses and all limits. -/
theorem Response.isReadUpTo
    (x : Response)
    (max : Nat) :
    x.IsReadUpTo max := by
  intro line frame hLine hFrame
  have hSize := Answer.utf8ByteSize_of_toLine hLine
  refine ⟨bytes_of_encode hLine hFrame, hSize, ?_⟩
  intro limit r hFront
  rw [← hSize]
  exact
    Frame.outcome_readMessage_of_encode Answer.ofLine max
      hFrame hFront

/-
  A server with a valid limit answers each command that it
  has read but the one to stop, and sends the answer however
  long it is, so that a client with the same limit may have
  to refuse it.

  An answer of the server itself is within the limit if it
  repeats nothing, and else not much longer than what it
  repeats.  An answer of the log is not much longer than the
  records or the text in it.
-/
theorem written_within_limit
    {s : Server}
    {input : Stream.Reader}
    {w : Stream.Writer}
    {c : Command}
    (hLimit : Validation.messageSize s.maxMessageSize = .ok ())
    (hOpen : w.IsOpen)
    (hRead : (s.request input).outcome = some (.ok c))
    (hStop : c.isStop = false) :
    ∃ x,
      s.respond? (s.request input).reader (.ok c) = some x ∧
        (s.handle input w).writer.written =
          w.written ++ x.bytes ∧
        x.IsReadUpTo s.maxMessageSize ∧
        (s.dispatched? (.ok c) = none →
          (s.echo? (s.request input).reader c = none →
              x.answer.size ≤ s.maxMessageSize) ∧
            ∀ echo ∈ s.echo? (s.request input).reader c,
              echo.size ≤ x.answer.size ∧
                x.answer.size ≤ echo.size + Echo.margin) ∧
        ∀ buffer,
          s.dispatched? (.ok c) =
              some (LogQuery.answer buffer c) →
            x.answer = LogQuery.answer buffer c ∧
              (LogQuery.echo buffer c).size ≤ x.answer.size ∧
              x.answer.size ≤
                (LogQuery.echo buffer c).size +
                  Echo.margin := by
  have hLeast :
      SettingError.minMessageSize ≤ s.maxMessageSize := by
    unfold Validation.messageSize at hLimit
    split at hLimit
    · cases hLimit
    · omega
  have hWritten := written_handle hOpen hRead (by rintro e ⟨⟩)
  have hSome :=
    respond?_isNone s (s.request input).reader (.ok c)
  rw [asksToStop, hStop, Option.isNone_eq_false_iff,
    Option.isSome_iff_exists] at hSome
  rcases hSome with ⟨x, hRespond⟩
  rw [hRespond, bytesOf] at hWritten
  refine
    ⟨x, hRespond, hWritten, x.isReadUpTo s.maxMessageSize, ?_,
      ?_⟩
  · intro hOwn
    have hMeasures := measures_respond? hRespond hOwn
    constructor
    · intro hNone
      rw [hNone] at hMeasures
      exact Nat.le_trans hMeasures hLeast
    · intro echo hEcho
      rw [Option.mem_def.mp hEcho] at hMeasures
      exact hMeasures
  · intro buffer hLog
    rw [respond?_of_dispatched _ hLog] at hRespond
    cases hRespond
    exact ⟨rfl, LogQuery.measures_answer buffer c⟩

end Server

end Courier

------------------------------------------------------------
-- A Command of the Largest Size
------------------------------------------------------------

namespace Courier

namespace Server

/- A server that takes the smallest messages it may take. -/
def tight : Server :=
  { fresh with maxMessageSize := SettingError.minMessageSize }

/- A long name has nothing that a line needs for itself. -/
theorem isBare_longName
    (count : Nat) :
    Line.IsBare (longName count).toList := by
  rw [longName, String.toList_ofList]
  intro c hMem
  rw [(List.mem_replicate.mp hMem).2]
  decide

/- It has one octet for each letter. -/
theorem utf8ByteSize_longName
    (count : Nat) :
    (longName count).utf8ByteSize = count := by
  rw [Utf8.utf8ByteSize_of_ascii, length_longName]
  intro c hMem
  rw [longName, String.toList_ofList] at hMem
  rw [(List.mem_replicate.mp hMem).2]
  decide

/- A command for a server with a long name. -/
def distantHealth : Command :=
  { Command.health with serverName := longName 983 }

/- The server says that it has another name. -/
def distantRefusal : Answer :=
  .error .wrongServer ("command addressed to " ++ longName 983)

/- The command is as long as the server takes it. -/
theorem exists_line_distantHealth :
    ∃ line,
      distantHealth.toLine = .ok line ∧
        Command.ofLine line = .ok distantHealth ∧
        (Utf8.encode line.toList).length =
          tight.maxMessageSize := by
  have hAll :
      distantHealth.fields =
        [longName 983, "cmdlink-internal", "HEALTH", "", "0",
          "", ""] :=
    rfl
  have hWhole :
      ∀ f ∈ distantHealth.fields, Line.IsWhole f.toList := by
    have hRest :
        ∀ f ∈ distantHealth.fields.tail,
          Line.IsBare f.toList := by
      decide
    intro f hMem
    rcases List.mem_cons.mp hMem with rfl | hTail
    · exact Line.isWhole_of_isBare (isBare_longName 983)
    · exact Line.isWhole_of_isBare (hRest f hTail)
  have hExists : ∃ line, distantHealth.toLine = .ok line :=
    ⟨_,
      Line.join_eq_ok_iff.mpr
        ⟨fun f hMem => (hWhole f hMem).1, rfl⟩⟩
  rcases hExists with ⟨line, hLine⟩
  have hPlain : distantHealth.IsPlain :=
    ⟨by decide, by decide, nofun, nofun, nofun⟩
  refine ⟨line, hLine, ?_, ?_⟩
  · refine (Command.ofLine_eq_ok_iff hPlain hLine).mpr ?_
    intro f hMem
    exact
      (hWhole f ((Line.followed_prefix _ _).subset hMem)).2
  · have hJoin :
        line.utf8ByteSize + 3 =
          (distantHealth.fields.map fun f =>
              f.utf8ByteSize + 3).sum +
            Line.objectSize none :=
      Line.utf8ByteSize_of_join (List.cons_ne_nil _ _) hLine
    have hSum :
        (distantHealth.fields.map fun f =>
          f.utf8ByteSize + 3).sum = 1027 := by
      rw [hAll, List.map_cons, List.sum_cons,
        utf8ByteSize_longName]
      rfl
    have hMax : tight.maxMessageSize = 1024 := rfl
    rw [hSum, Line.objectSize] at hJoin
    rw [Utf8.length_encode, hMax]
    omega

/- So it can be sent to the server. -/
theorem exists_input_distantHealth :
    ∃ input,
      (tight.request input).outcome =
        some (.ok distantHealth) := by
  rcases exists_line_distantHealth with
    ⟨line, -, hSpells, hSize⟩
  have hFrame :=
    Frame.encode_eq_ok_iff.mpr
      ⟨Nat.le_trans (Nat.le_of_eq hSize) (by decide), rfl⟩
  have hHolds :=
    Stream.Reader.holds_ofBytes
      (Bytes.ofWord (Utf8.encode line.toList).length ++
        (Utf8.encode line.toList ++ [Frame.terminator]))
  rw [← List.append_nil (_ ++ _)] at hHolds
  rcases
    Frame.readMessage_of_encode Command.ofLine
      tight.readTimeout hFrame hHolds (Nat.le_of_eq hSize) with
    ⟨rest, hRequest, -⟩
  rw [hSpells] at hRequest
  exact ⟨_, congrArg Frame.Received.outcome hRequest⟩

/- The server gives this answer to the command. -/
theorem respond?_distantHealth
    (rest : Stream.Reader) :
    tight.respond? rest (.ok distantHealth) =
      some (.only distantRefusal) := by
  apply respond?_of_wrongServer rest rfl
  have hOther :
      ¬ (distantHealth.serverName = "" ∨
        distantHealth.serverName = tight.name) := by
    rintro (hSame | hSame)
    all_goals
      have hSize := congrArg String.utf8ByteSize hSame
      rw [distantHealth, utf8ByteSize_longName] at hSize
      exact absurd hSize (by decide)
  rw [wrongServer?, if_neg hOther]
  rfl

/- It is longer than the server lets messages be. -/
theorem size_distantRefusal :
    distantRefusal.size = 1031 := by
  have hFields :
      distantRefusal.fields =
        ["-1", "command addressed to " ++ longName 983, "0",
          "", "wrong-server"] :=
    rfl
  rw [Answer.size, hFields, List.map_cons, List.map_cons,
    String.utf8ByteSize_append, utf8ByteSize_longName]
  rfl

/- The answer has a frame. -/
theorem exists_frame_distantRefusal :
    ∃ line frame,
      distantRefusal.toLine = .ok line ∧
        Frame.encode line = .ok frame := by
  have hBare : Line.IsBare distantRefusal.entity.toList := by
    show
      Line.IsBare
        ("command addressed to " ++ longName 983).toList
    rw [String.toList_append, Line.isBare_append]
    exact ⟨by decide, isBare_longName 983⟩
  have hText : distantRefusal.HoldsOneText :=
    Answer.holdsOneText_error _ _
  rcases
    Answer.ofLine_of_isWhole hText
      (Line.isWhole_of_isBare hBare) with
    ⟨line, hLine, -⟩
  refine
    ⟨line, _, hLine, Frame.encode_eq_ok_iff.mpr ⟨?_, rfl⟩⟩
  rw [Utf8.length_encode,
    Answer.utf8ByteSize_of_toLine hLine, size_distantRefusal]
  decide

/- A client with the same limit has to refuse it. -/
theorem written_within_limit_distant :
    ∃ input,
      Validation.messageSize tight.maxMessageSize = .ok () ∧
        Stream.Writer.endless.IsOpen ∧
        (tight.request input).outcome =
          some (.ok distantHealth) ∧
        distantHealth.isStop = false ∧
        (Frame.readAnswer tight.maxMessageSize 0
            (.ofBytes
              (tight.handle input
                .endless).writer.written)).outcome =
          some (.error (.messageTooLarge 1031 1024)) := by
  rcases exists_input_distantHealth with ⟨input, hRead⟩
  refine
    ⟨input, rfl, Stream.Writer.isOpen_endless, hRead, rfl, ?_⟩
  rcases
    written_within_limit rfl Stream.Writer.isOpen_endless
      hRead rfl with
    ⟨x, hRespond, hWritten, hReadUpTo, -⟩
  rw [respond?_distantHealth] at hRespond
  cases hRespond
  rcases exists_frame_distantRefusal with
    ⟨line, frame, hLine, hFrame⟩
  rcases hReadUpTo line frame hLine hFrame with
    ⟨hBytes, -, hClient⟩
  have hNothing : Stream.Writer.endless.written = [] := rfl
  rw [hBytes, hNothing, List.nil_append] at hWritten
  have hFront :
      frame <+:
        (Stream.Reader.delivery 0
          (.ofBytes
            (tight.handle input
              .endless).writer.written)).bytes := by
    rw [hWritten]
    exact ⟨_, (List.append_assoc _ _ _).symm⟩
  have hOutcome := hClient 0 _ hFront
  rw [Response.only, size_distantRefusal] at hOutcome
  exact hOutcome

/- Not all answers are within the limit of their server. -/
theorem not_forall_within_limit :
    ¬ ∀ (s : Server) (input : Stream.Reader)
        (w : Stream.Writer) (c : Command) (line : String)
        (frame payload : Bytes),
      Validation.messageSize s.maxMessageSize = .ok () →
        w.IsOpen →
        (s.request input).outcome = some (.ok c) →
        c.isStop = false →
        (s.handle input w).writer.written =
          w.written ++ (frame ++ payload) →
        Frame.encode line = .ok frame →
          (Utf8.encode line.toList).length ≤
            s.maxMessageSize := by
  intro hAll
  rcases exists_input_distantHealth with ⟨input, hRead⟩
  rcases exists_frame_distantRefusal with
    ⟨line, frame, hLine, hFrame⟩
  have hWritten :=
    written_handle Stream.Writer.isOpen_endless hRead
      (by rintro e ⟨⟩)
  have hBytes : (Response.only distantRefusal).bytes = _ :=
    Response.bytes_of_encode hLine hFrame
  rw [respond?_distantHealth, bytesOf, hBytes] at hWritten
  have hShort :=
    hAll tight input .endless distantHealth line frame []
      rfl Stream.Writer.isOpen_endless hRead rfl hWritten hFrame
  have hMax : tight.maxMessageSize = 1024 := rfl
  have hSize := Answer.utf8ByteSize_of_toLine hLine
  rw [size_distantRefusal] at hSize
  rw [Utf8.length_encode, hMax] at hShort
  omega

end Server

end Courier
