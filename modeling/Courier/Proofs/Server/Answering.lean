import Courier.Proofs.Server.Repeated

/-
  When a message is answered with one readable answer.

  A server owes everybody an answer who sends more than
  nothing and does not ask it to stop.  It keeps that
  promise exactly if the texts that it repeats stay whole in
  a line, the answers of its dispatchers are readable, and
  no line is longer than a frame can be.

  Key definitions include:
    * `Store.IsSized`
    * `Server.IsAnswered`
    * `Server.IsAnswerable`

  Key theorems include:
    * `Server.isAnswered_iff`
    * `Server.exists_isAnswered_iff`
-/

------------------------------------------------------------
-- Answered Messages
------------------------------------------------------------

namespace Courier

/- The length of every stored file can be told in a word. -/
def Store.IsSized
    (s : Store) : Prop :=
  ∀ path content,
    s.tree.node? path = some (.file content) →
      content.length < UInt64.size

namespace Server

/-
  The number of bytes that come behind an answer: those of
  the file that a download announces.
-/
def promised
    (a : Answer) : Except ProtocolError Command → Nat
  | .error _ => 0
  | .ok c =>
      if c.hasVerb Command.downloadVerb ∧
          a.status = .fileOk then
        a.dataLength.toNat
      else 0

/- The message is the command to stop. -/
def asksToStop : Except ProtocolError Command → Bool
  | .error _ => false
  | .ok c => c.isStop

/-
  The bytes are what the message calls for: none if it is
  the command to stop, and else a frame of which an answer
  can be read, with the bytes behind it that it promises.
-/
def IsAnswered
    (m : Except ProtocolError Command)
    (out : Bytes) : Prop :=
  if asksToStop m then
    out = []
  else
    ∃ line frame a payload,
      Frame.encode line = .ok frame ∧
        Answer.ofLine line = .ok a ∧
        out = frame ++ payload ∧
        payload.length = promised a m

/- Nothing keeps the answer to the message from the client. -/
structure IsAnswerable
    (s : Server)
    (rest : Stream.Reader)
    (m : Except ProtocolError Command) : Prop where
  repeated :
    ∀ text ∈ s.repeated? rest m, Line.IsWhole text.toList
  dispatched : ∀ a ∈ s.dispatched? m, a.IsReadable
  fits :
    ∀ x ∈ s.respond? rest m, ∀ line,
      x.answer.toLine = .ok line →
        ∃ frame, Frame.encode line = .ok frame

end Server

end Courier

------------------------------------------------------------
-- Responses
------------------------------------------------------------

namespace Courier

namespace Server

variable {s : Server}
variable {rest : Stream.Reader}
variable {m : Except ProtocolError Command}

/- Only the command to stop has no response. -/
theorem respond?_isNone
    (s : Server)
    (rest : Stream.Reader)
    (m : Except ProtocolError Command) :
    (s.respond? rest m).isNone = asksToStop m := by
  cases m with
  | error e => rfl
  | ok c =>
      cases hStop : c.isStop with
      | true =>
          rw [respond?_of_isStop s rest hStop, asksToStop,
            hStop]
          rfl
      | false =>
          simp only [respond?, asksToStop, hStop,
            Bool.false_eq_true, if_false]
          split
          · rfl
          split
          · rfl
          · rfl

/- No bytes come behind the answer of a dispatcher. -/
theorem promised_of_dispatched
    {a : Answer}
    (hDispatched : s.dispatched? m = some a)
    (found : Answer) :
    promised found m = 0 := by
  cases m with
  | error e => rfl
  | ok c =>
      cases hInternal : c.isInternal with
      | true =>
          simp [dispatched?, hInternal] at hDispatched
      | false =>
          simp [promised, Command.hasVerb, hInternal]

/- A download sends what its answer promises. -/
theorem length_downloadResponse
    {c : Command}
    (hSized : ∀ files ∈ s.store, files.IsSized)
    (hDownload : c.hasVerb Command.downloadVerb = true) :
    (s.downloadResponse c).payload.length =
      promised (s.downloadResponse c).answer (.ok c) := by
  simp only [promised, hDownload, true_and, downloadResponse]
  split
  · next refusal hWrong =>
      unfold wrongServer? at hWrong
      split at hWrong
      · cases hWrong
      · cases hWrong
        rfl
  · rfl
  · next files _ hStore =>
      split
      · rfl
      · rfl
      · next d files' hFind =>
          rcases Store.exists_of_find hFind with
            ⟨-, path, content, hNode, hRead⟩
          have hLength := hSized files hStore path content hNode
          simp only [hRead, Answer.fileOk, Answer.make, if_true,
            UInt64.toNat_ofNat']
          exact (Nat.mod_eq_of_lt hLength).symm

/- A response has the bytes that its answer promises. -/
theorem length_payload
    {x : Response}
    (hSized : ∀ files ∈ s.store, files.IsSized)
    (hRespond : s.respond? rest m = some x) :
    x.payload.length = promised x.answer m := by
  cases m with
  | error e =>
      cases hRespond
      rfl
  | ok c =>
      cases hDownload : c.hasVerb Command.downloadVerb with
      | true =>
          have hUpload :=
            hasVerb_other Command.uploadVerb hDownload
              (by decide)
          simp only [respond?, hUpload, hDownload, if_true,
            Bool.false_eq_true, if_false] at hRespond
          cases hRespond
          exact length_downloadResponse hSized hDownload
      | false =>
          simp only [promised, hDownload, Bool.false_eq_true,
            false_and, if_false]
          simp only [respond?, hDownload, Bool.false_eq_true,
            if_false] at hRespond
          split at hRespond
          · cases hRespond
            rfl
          split at hRespond
          · cases hRespond
          · cases hRespond
            rfl

end Server

end Courier

------------------------------------------------------------
-- Bytes of a Response
------------------------------------------------------------

namespace Courier

namespace Server

variable {s : Server}
variable {rest : Stream.Reader}
variable {m : Except ProtocolError Command}

/- A frame is not empty. -/
theorem ne_nil_of_encode
    {line : String}
    {frame : Bytes}
    (hFrame : Frame.encode line = .ok frame) :
    frame ≠ [] := by
  rcases Frame.encode_eq_ok_iff.mp hFrame with ⟨-, rfl⟩
  simp [Bytes.ofWord]

/-
  The bytes of a response hold an answer that keeps its
  promise exactly if its line is readable and has a frame.
-/
theorem bytes_iff
    {x : Response}
    (hPromise :
      ∀ line found,
        x.answer.toLine = .ok line →
          Answer.ofLine line = .ok found →
            x.payload.length = promised found m) :
    (∃ line frame a payload,
        Frame.encode line = .ok frame ∧
          Answer.ofLine line = .ok a ∧
          x.bytes = frame ++ payload ∧
          payload.length = promised a m) ↔
      x.answer.IsReadable ∧
        ∀ line,
          x.answer.toLine = .ok line →
            ∃ frame, Frame.encode line = .ok frame := by
  constructor
  · rintro ⟨line, frame, a, payload, hFrame, hRead, hOut, -⟩
    rcases x.bytes_cases with
      ⟨line', frame', hLine', hFrame', hBytes⟩ | ⟨-, hBytes⟩
    · rw [hBytes] at hOut
      rcases Frame.encode_append_inj hFrame' hFrame hOut with
        ⟨rfl, -⟩
      refine ⟨⟨line', a, hLine', hRead⟩, ?_⟩
      intro line hLine
      rw [hLine'] at hLine
      cases hLine
      exact ⟨frame', hFrame'⟩
    · rw [hBytes] at hOut
      rcases List.append_eq_nil_iff.mp hOut.symm with
        ⟨hNil, -⟩
      exact absurd hNil (ne_nil_of_encode hFrame)
  · rintro ⟨⟨line, a, hLine, hRead⟩, hFits⟩
    rcases hFits line hLine with ⟨frame, hFrame⟩
    refine
      ⟨line, frame, a, x.payload, hFrame, hRead, ?_,
        hPromise line a hLine hRead⟩
    simp only [Response.bytes, hLine, hFrame]

/- What comes behind a readable answer is what it promises. -/
theorem length_payload_of_ofLine
    {x : Response}
    {line : String}
    {found : Answer}
    (hSized : ∀ files ∈ s.store, files.IsSized)
    (hRespond : s.respond? rest m = some x)
    (hOwn :
      s.dispatched? m = some x.answer ∨
        x.answer.HoldsOneText)
    (hLine : x.answer.toLine = .ok line)
    (hRead : Answer.ofLine line = .ok found) :
    x.payload.length = promised found m := by
  have hLength := length_payload hSized hRespond
  rcases hOwn with hDispatched | hText
  · rw [promised_of_dispatched hDispatched] at hLength ⊢
    exact hLength
  · have hWhole :=
      (Answer.isReadable_iff hText).mp
        ⟨line, found, hLine, hRead⟩
    rcases Answer.ofLine_of_isWhole hText hWhole with
      ⟨line', hLine', hRead'⟩
    rw [hLine] at hLine'
    cases hLine'
    rw [hRead] at hRead'
    cases hRead'
    exact hLength

/- The answer in a response is readable under two conditions. -/
theorem isReadable_answer_iff
    {x : Response}
    (hClear : ∀ c, m = .ok c → c.IsClear)
    (hText :
      ∀ e, m = .error e →
        (∃ fault, e = .io fault) ∨
          Line.IsWhole e.message.toList)
    (hRespond : s.respond? rest m = some x) :
    x.answer.IsReadable ↔
      (∀ text ∈ s.repeated? rest m,
          Line.IsWhole text.toList) ∧
        ∀ a ∈ s.dispatched? m, a.IsReadable := by
  rcases respond?_cases hClear hText hRespond with
    ⟨hDispatched, hRepeated⟩ | ⟨hDispatched, hTells⟩
  · simp [hDispatched, hRepeated]
  · rw [Answer.isReadable_iff hTells.holdsOneText,
      hTells.isWhole_iff, hDispatched]
    simp

/- Nothing is said to the command to stop. -/
theorem isAnswerable_of_asksToStop
    (hStop : asksToStop m = true) :
    s.IsAnswerable rest m := by
  cases m with
  | error e => cases hStop
  | ok c =>
      have hInternal : c.isInternal = true := by
        simp only [asksToStop, Command.isStop,
          Command.hasVerb, Bool.and_eq_true] at hStop
        exact hStop.1
      rw [asksToStop] at hStop
      constructor
      · simp [repeated?, hStop]
      · simp [dispatched?, hInternal]
      · simp [respond?_of_isStop s rest hStop]

/-
  The bytes of the response to a message answer it exactly
  if nothing keeps the answer from the client.
-/
theorem isAnswered_iff
    (hClear : ∀ c, m = .ok c → c.IsClear)
    (hText :
      ∀ e, m = .error e →
        (∃ fault, e = .io fault) ∨
          Line.IsWhole e.message.toList)
    (hSized : ∀ files ∈ s.store, files.IsSized) :
    IsAnswered m (bytesOf (s.respond? rest m)) ↔
      s.IsAnswerable rest m := by
  have hNone := respond?_isNone s rest m
  cases hRespond : s.respond? rest m with
  | none =>
      rw [hRespond, Option.isNone_none] at hNone
      rw [IsAnswered, if_pos hNone.symm]
      exact
        iff_of_true rfl (isAnswerable_of_asksToStop hNone.symm)
  | some x =>
      rw [hRespond, Option.isNone_some] at hNone
      have hOwn :
          s.dispatched? m = some x.answer ∨
            x.answer.HoldsOneText :=
        (respond?_cases hClear hText hRespond).imp And.left
          fun hTells => hTells.2.holdsOneText
      simp only [IsAnswered, ← hNone, Bool.false_eq_true,
        if_false, bytesOf]
      rw [bytes_iff fun line found =>
          length_payload_of_ofLine hSized hRespond hOwn,
        isReadable_answer_iff hClear hText hRespond]
      constructor
      · rintro ⟨⟨hRepeated, hDispatched⟩, hFits⟩
        refine ⟨hRepeated, hDispatched, ?_⟩
        rw [hRespond]
        rintro y ⟨⟩
        exact hFits
      · rintro ⟨hRepeated, hDispatched, hFits⟩
        exact
          ⟨⟨hRepeated, hDispatched⟩, hFits x hRespond⟩

end Server

end Courier

------------------------------------------------------------
-- Connections
------------------------------------------------------------

namespace Courier

namespace Server

/-
  A message on a connection that takes everything is
  answered with exactly one readable answer and what it
  promises, and the command to stop with nothing, exactly if
  nothing keeps the answer from the client.
-/
theorem exists_isAnswered_iff
    {s : Server}
    {input : Stream.Reader}
    {w : Stream.Writer}
    {m : Except ProtocolError Command}
    (hOpen : w.IsOpen)
    (hRead : (s.request input).outcome = some m)
    (hEnd : ∀ e, m = .error e → e.isEnd = false)
    (hSized : ∀ files ∈ s.store, files.IsSized) :
    (∃ out,
        (s.handle input w).writer.written = w.written ++ out ∧
          IsAnswered m out) ↔
      s.IsAnswerable (s.request input).reader m := by
  have hClear : ∀ c, m = .ok c → c.IsClear := by
    rintro c rfl
    rcases Frame.exists_line_of_readCommand hRead with
      ⟨line, hLine⟩
    exact Command.isClear_of_ofLine hLine
  have hText :
      ∀ e, m = .error e →
        (∃ fault, e = .io fault) ∨
          Line.IsWhole e.message.toList := by
    rintro e rfl
    exact Frame.isWhole_of_readCommand hRead
  rw [← isAnswered_iff hClear hText hSized,
    written_handle hOpen hRead hEnd]
  constructor
  · rintro ⟨out, hOut, hAnswered⟩
    rwa [List.append_cancel_left hOut]
  · intro hAnswered
    exact ⟨_, rfl, hAnswered⟩

/- The connection of a client that sends a line at once. -/
def lineInput
    (line : String) : Stream.Reader :=
  let body := Utf8.encode line.toList
  .ofBytes
    (Bytes.ofWord body.length ++ (body ++ [Frame.terminator]))

/- A server without files that are too long. -/
theorem isSized_fresh :
    ∀ files ∈ fresh.store, files.IsSized := by
  rintro files ⟨⟩ path content hNode
  by_cases hRoot : path = []
  · rw [Tree.node?, if_pos hRoot] at hNode
    cases hNode
  · rw [Tree.node?, if_neg hRoot] at hNode
    cases hNode

/- A client that looks for a dispatcher named log. -/
def logInput : Stream.Reader :=
  lineInput "#|#log#|#LOG#|##|##|##|#"

/- A command for a dispatcher that is not there is answered. -/
theorem exists_isAnswered_log :
    Stream.Writer.endless.IsOpen ∧
      (fresh.request logInput).outcome =
        some (.ok (Command.make "log" "LOG")) ∧
      (∀ files ∈ fresh.store, files.IsSized) ∧
      ∃ out,
        (fresh.handle logInput .endless).writer.written =
            Stream.Writer.endless.written ++ out ∧
          IsAnswered (.ok (Command.make "log" "LOG")) out := by
  have hRead :
      (fresh.request logInput).outcome =
        some (.ok (Command.make "log" "LOG")) := by
    rfl
  have hAnswerable :
      fresh.IsAnswerable (fresh.request logInput).reader
        (.ok (Command.make "log" "LOG")) := by
    have hRespond :
        fresh.respond? (fresh.request logInput).reader
            (.ok (Command.make "log" "LOG")) =
          some (.only (Registry.unknownDispatcher "log")) := by
      rfl
    have hLine :
        (Registry.unknownDispatcher "log").toLine =
          .ok ("-1#|#unknown dispatcher log#|#0#|##|#" ++
            "unknown-dispatcher") := by
      rfl
    refine ⟨?_, ?_, ?_⟩
    · have hRepeated :
          fresh.repeated? (fresh.request logInput).reader
              (.ok (Command.make "log" "LOG")) =
            some "log" := by
        rfl
      rw [hRepeated]
      rintro text ⟨⟩
      exact Line.isWhole_of_isBare (by decide)
    · have hNone :
          fresh.dispatched? (.ok (Command.make "log" "LOG")) =
            none := by
        rfl
      rw [hNone]
      rintro a ⟨⟩
    · rw [hRespond]
      rintro x ⟨⟩ line hSame
      rw [Response.only, hLine] at hSame
      cases hSame
      exact ⟨_, Frame.encode_eq_ok_iff.mpr ⟨by decide, rfl⟩⟩
  have hEnd :
      ∀ e : ProtocolError,
        (.ok (Command.make "log" "LOG") :
            Except ProtocolError Command) = .error e →
          e.isEnd = false := by
    rintro e ⟨⟩
  exact
    ⟨Stream.Writer.isOpen_endless, hRead, isSized_fresh,
      (exists_isAnswered_iff Stream.Writer.isOpen_endless hRead
        hEnd isSized_fresh).mpr hAnswerable⟩

/- A command for a server with a line break in its name. -/
def brokenHealth : Command :=
  { Command.health with serverName := "x\ny" }

/- What is sent with that command. -/
def brokenInput : Stream.Reader :=
  lineInput "x\ny#|#cmdlink-internal#|#HEALTH#|##|##|##|#"

/-
  A line break in the server name of a command gets into the
  refusal, which then has no line.
-/
theorem not_forall_isAnswered :
    ¬ ∀ (s : Server) (input : Stream.Reader)
        (w : Stream.Writer)
        (m : Except ProtocolError Command),
      w.IsOpen →
        (s.request input).outcome = some m →
        (∀ e, m = .error e → e.isEnd = false) →
        (∀ entry ∈ s.registry, ∀ c, ∃ line,
          (entry.2.dispatch c).toLine = .ok line) →
        (∀ files ∈ s.store, files.IsSized) →
        ∃ out,
          (s.handle input w).writer.written =
              w.written ++ out ∧
            IsAnswered m out := by
  intro hAll
  have hRead :
      (fresh.request brokenInput).outcome =
        some (.ok brokenHealth) := by
    rfl
  have hWritten :
      (fresh.handle brokenInput .endless).writer.written =
        [] := by
    rfl
  rcases
    hAll fresh brokenInput .endless (.ok brokenHealth)
      Stream.Writer.isOpen_endless hRead nofun nofun
      isSized_fresh with
    ⟨out, hOut, hAnswered⟩
  rw [hWritten] at hOut
  have hNil := (List.append_eq_nil_iff.mp hOut.symm).2
  rw [hNil] at hAnswered
  rcases hAnswered with
    ⟨line, frame, a, payload, hFrame, -, hParts, -⟩
  rcases List.append_eq_nil_iff.mp hParts.symm with ⟨hNone, -⟩
  exact ne_nil_of_encode hFrame hNone

end Server

end Courier
