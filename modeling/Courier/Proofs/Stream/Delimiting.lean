import Courier.Proofs.Stream.Delivery
import Courier.Proofs.Stream.Frame
import Mathlib.Data.List.Forall2

/-
  Frames at the front of what a connection delivers.

  A frame says itself where it ends.  So a reader of frames
  takes exactly one frame off the delivery, whatever its
  pieces and whatever comes behind it, and takes nothing
  else for a frame.

  Key definitions include:
    * `Frame.Opening`
    * `Frame.writeEach`
    * `Frame.readEach`

  Key theorems include:
    * `Frame.read_eq_ok_iff`
    * `Frame.readMessage_eq_ok_iff`
    * `Frame.read_of_prefix_ne`
    * `Frame.readEach_of_prefix`
    * `Frame.frames_delimit_themselves`
-/

------------------------------------------------------------
-- Parts of a Message
------------------------------------------------------------

namespace Courier

/- A message for which nothing more is delivered. -/
def Stream.Ending.verdict
    {α : Type} :
    Stream.Ending → Option (Except ProtocolError α)
  | .closed => some (.error (.io .unexpectedEnd))
  | .late => none
  | .broken e => some (.error (.io e))

namespace Frame

variable {α : Type}
variable {limit waited : Nat}
variable {r : Stream.Reader}
variable {ending : Stream.Ending}

/- A part that is delivered is read, and no more than it. -/
theorem next_of_append
    {front back : Bytes}
    (go : Bytes → Nat → Stream.Reader → Received α)
    (hTime : waited ≤ limit)
    (hDelivery :
      r.delivery (limit - waited) = ⟨front ++ back, ending⟩) :
    ∃ waited' r',
      Received.next limit front.length waited r go =
          go front waited' r' ∧
        Stream.Took limit waited r front waited' r' ∧
        r'.delivery (limit - waited') = ⟨back, ending⟩ := by
  have hEnough :
      front.length ≤
        (r.delivery (limit - waited)).bytes.length := by
    simp [hDelivery]
  rcases Stream.Reader.readExact_of_le hEnough with
    ⟨ms, r', hRead, hTook⟩
  simp only [hDelivery, List.take_left] at hRead hTook
  have hLater := hTook.after hTime
  have hRest := hLater.rest
  rw [hDelivery, List.drop_left] at hRest
  refine ⟨waited + ms, r', ?_, hLater, hRest⟩
  simp only [Received.next, hRead]

/- A part that is cut off ends as the delivery does. -/
theorem next_of_lt
    {count : Nat}
    {part : Bytes}
    (go : Bytes → Nat → Stream.Reader → Received α)
    (hDelivery :
      r.delivery (limit - waited) = ⟨part, ending⟩)
    (hShort : part.length < count) :
    (Received.next limit count waited r go).outcome =
      ending.verdict := by
  have hLess :
      (r.delivery (limit - waited)).bytes.length < count := by
    rw [hDelivery]
    exact hShort
  have hOutcome := Stream.Reader.readExact_of_lt hLess
  rw [hDelivery] at hOutcome
  simp only [Received.next, hOutcome]
  cases ending with
  | closed => rfl
  | late => rfl
  | broken e => rfl

end Frame

end Courier

------------------------------------------------------------
-- Bodies
------------------------------------------------------------

namespace Courier

namespace Frame

variable {limit waited : Nat}
variable {r : Stream.Reader}
variable {ending : Stream.Ending}

/- A body that is delivered with one more octet is read. -/
theorem readBody_of_append
    {body rest : Bytes}
    {last : UInt8}
    (hTime : waited ≤ limit)
    (hDelivery :
      r.delivery (limit - waited) =
        ⟨body ++ ([last] ++ rest), ending⟩) :
    ∃ waited' r',
      readBody limit body.length waited r =
          ⟨some (lineOf body [last]), waited', r'⟩ ∧
        Stream.Took limit waited r (body ++ [last])
          waited' r' := by
  rcases next_of_append _ hTime hDelivery with
    ⟨middle, r₁, hBody, hFirst, hBack⟩
  rcases next_of_append _ hFirst.inTime hBack with
    ⟨waited', r', hLast, hSecond, -⟩
  refine ⟨waited', r', ?_, hFirst.trans hSecond⟩
  rw [readBody, hBody]
  exact hLast

/- A body that is cut off ends as the delivery does. -/
theorem readBody_of_le
    {part : Bytes}
    {length : Nat}
    (hTime : waited ≤ limit)
    (hDelivery :
      r.delivery (limit - waited) = ⟨part, ending⟩)
    (hCut : part.length ≤ length) :
    (readBody limit length waited r).outcome =
      ending.verdict := by
  rcases Nat.lt_or_eq_of_le hCut with hShort | rfl
  · exact next_of_lt _ hDelivery hShort
  · -- The body is there, but not the octet after it.
    have hWhole :
        r.delivery (limit - waited) = ⟨part ++ [], ending⟩ := by
      rw [List.append_nil]
      exact hDelivery
    rcases next_of_append _ hTime hWhole with
      ⟨middle, r', hBody, hTook, hBack⟩
    rw [readBody, hBody]
    exact next_of_lt _ hBack Nat.zero_lt_one

end Frame

end Courier

------------------------------------------------------------
-- Frames
------------------------------------------------------------

namespace Courier

namespace Frame

/-
  How some bytes can start: too short for a length, with a
  length above the bound, with a body that is cut off, or
  with all that is read of a frame.
-/
inductive Opening
    (max : Nat) : Bytes → Prop where
| short :
    ∀ part : Bytes, part.length < 4 → Opening max part
| tooLarge :
    ∀ word rest : Bytes,
      word.length = 4 →
      max < Bytes.toWord word →
      Opening max (word ++ rest)
| cut :
    ∀ word part : Bytes,
      word.length = 4 →
      Bytes.toWord word ≤ max →
      part.length ≤ Bytes.toWord word →
      Opening max (word ++ part)
| whole :
    ∀ (word body : Bytes) (last : UInt8) (rest : Bytes),
      word.length = 4 →
      Bytes.toWord word ≤ max →
      body.length = Bytes.toWord word →
      Opening max (word ++ (body ++ ([last] ++ rest)))

/- All bytes start in one of these ways. -/
theorem opening
    (max : Nat)
    (bytes : Bytes) :
    Opening max bytes := by
  by_cases hShort : bytes.length < 4
  · exact .short bytes hShort
  have hWord : (bytes.take 4).length = 4 :=
    List.length_take_of_le (by omega)
  rw [← List.take_append_drop 4 bytes]
  generalize bytes.take 4 = word at hWord
  generalize bytes.drop 4 = part
  by_cases hLarge : max < Bytes.toWord word
  · exact .tooLarge word part hWord hLarge
  have hFits : Bytes.toWord word ≤ max := by omega
  by_cases hCut : part.length ≤ Bytes.toWord word
  · exact .cut word part hWord hFits hCut
  have hBody :
      (part.take (Bytes.toWord word)).length =
        Bytes.toWord word :=
    List.length_take_of_le (by omega)
  rw [← List.take_append_drop (Bytes.toWord word) part]
  cases hRest : part.drop (Bytes.toWord word) with
  | nil =>
      rw [List.drop_eq_nil_iff] at hRest
      exact absurd hRest hCut
  | cons last rest =>
      exact .whole word _ last rest hWord hFits hBody

variable {max limit : Nat}
variable {r : Stream.Reader}
variable {ending : Stream.Ending}

/- Without a length a message ends as the delivery does. -/
theorem read_short
    {part : Bytes}
    (hDelivery : r.delivery limit = ⟨part, ending⟩)
    (hShort : part.length < 4) :
    (read max limit r).outcome = ending.verdict :=
  next_of_lt _ hDelivery hShort

/- Of a frame that is too large only the length is read. -/
theorem read_tooLarge
    {word rest : Bytes}
    (hDelivery : r.delivery limit = ⟨word ++ rest, ending⟩)
    (hWord : word.length = 4)
    (hLarge : max < Bytes.toWord word) :
    ∃ waited r',
      read max limit r =
          ⟨some
              (.error
                (.messageTooLarge (Bytes.toWord word) max)),
            waited, r'⟩ ∧
        Stream.Took limit 0 r word waited r' := by
  rcases next_of_append _ (Nat.zero_le limit) hDelivery with
    ⟨waited, r', hRead, hTook, -⟩
  refine ⟨waited, r', ?_, hTook⟩
  rw [read_eq, ← hWord, hRead, if_pos hLarge]

/- A frame that is cut off ends as the delivery does. -/
theorem read_cut
    {word part : Bytes}
    (hDelivery : r.delivery limit = ⟨word ++ part, ending⟩)
    (hWord : word.length = 4)
    (hFits : Bytes.toWord word ≤ max)
    (hCut : part.length ≤ Bytes.toWord word) :
    (read max limit r).outcome = ending.verdict := by
  rcases next_of_append _ (Nat.zero_le limit) hDelivery with
    ⟨waited, r', hRead, hTook, hBack⟩
  rw [read_eq, ← hWord, hRead, if_neg (Nat.not_lt.mpr hFits)]
  exact readBody_of_le hTook.inTime hBack hCut

/- A frame that is all there is read, whatever its line. -/
theorem read_whole
    {word body rest : Bytes}
    {last : UInt8}
    (hDelivery :
      r.delivery limit =
        ⟨word ++ (body ++ ([last] ++ rest)), ending⟩)
    (hWord : word.length = 4)
    (hFits : Bytes.toWord word ≤ max)
    (hBody : body.length = Bytes.toWord word) :
    ∃ waited r',
      read max limit r =
          ⟨some (lineOf body [last]), waited, r'⟩ ∧
        Stream.Took limit 0 r (word ++ (body ++ [last]))
          waited r' := by
  rcases next_of_append _ (Nat.zero_le limit) hDelivery with
    ⟨middle, r₁, hRead, hFirst, hBack⟩
  rcases readBody_of_append hFirst.inTime hBack with
    ⟨waited, r', hLine, hSecond⟩
  refine ⟨waited, r', ?_, hFirst.trans hSecond⟩
  rw [read_eq, ← hWord, hRead,
    if_neg (Nat.not_lt.mpr hFits), ← hBody, hLine]

end Frame

end Courier

------------------------------------------------------------
-- Lines
------------------------------------------------------------

namespace Courier

namespace Frame

variable {max limit : Nat}
variable {line : String}
variable {frame : Bytes}
variable {r : Stream.Reader}

/- What is read as a line is the frame of that line. -/
theorem isFrame_of_lineOf
    {word body : Bytes}
    {last : UInt8}
    (hWord : word.length = 4)
    (hFits : Bytes.toWord word ≤ max)
    (hBody : body.length = Bytes.toWord word)
    (hLine : lineOf body [last] = .ok line) :
    IsFrame max line (word ++ (body ++ [last])) := by
  unfold lineOf at hLine
  split at hLine
  · next hLast =>
      cases hLast
      unfold lineOfBody at hLine
      split at hLine
      · next chars hChars =>
          rw [Utf8.decode_eq_ok_iff] at hChars
          cases hLine
          have hSame :
              Utf8.encode (String.ofList chars).toList = body :=
            by rw [String.toList_ofList, hChars]
          rcases Bytes.ofWord_toWord hWord with
            ⟨hBound, hOctets⟩
          constructor
          · rw [hSame, hBody, hOctets]
          · rw [hSame, hBody]
            exact hFits
          · rw [hSame, hBody]
            unfold maxLength
            omega
      · cases hLine
  · cases hLine

/-
  A frame at the front of the delivery is read as its line,
  and nothing behind it is taken.
-/
theorem read_of_isFrame
    (hFrame : IsFrame max line frame)
    (hFront : frame <+: (r.delivery limit).bytes) :
    ∃ waited r',
      read max limit r = ⟨some (.ok line), waited, r'⟩ ∧
        Stream.Took limit 0 r frame waited r' := by
  rcases hFrame.exists_parts with
    ⟨word, body, rfl, hWord, hFits, hBody, hLine⟩
  rcases hFront with ⟨rest, hBytes⟩
  have hDelivery :
      r.delivery limit =
        ⟨word ++ (body ++ ([terminator] ++ rest)),
          (r.delivery limit).ending⟩ := by
    simp only [List.append_assoc] at hBytes
    rw [hBytes]
  rcases read_whole hDelivery hWord hFits hBody with
    ⟨waited, r', hRead, hTook⟩
  rw [hLine] at hRead
  exact ⟨waited, r', hRead, hTook⟩

/- A line is read only from its frame. -/
theorem exists_isFrame_of_read
    (hRead : (read max limit r).outcome = some (.ok line)) :
    ∃ frame,
      IsFrame max line frame ∧
        frame <+: (r.delivery limit).bytes := by
  have hNone (ending : Stream.Ending)
      (hEnd :
        (read max limit r).outcome = ending.verdict) : False := by
    rw [hEnd] at hRead
    cases ending <;> cases hRead
  rcases hDelivery : r.delivery limit with ⟨bytes, ending⟩
  cases opening max bytes with
  | short part hShort =>
      exact (hNone _ (read_short hDelivery hShort)).elim
  | tooLarge word rest hWord hLarge =>
      rcases read_tooLarge hDelivery hWord hLarge with
        ⟨waited, r', hSame, -⟩
      rw [hSame] at hRead
      cases hRead
  | cut word part hWord hFits hCut =>
      exact
        (hNone _ (read_cut hDelivery hWord hFits hCut)).elim
  | whole word body last rest hWord hFits hBody =>
      rcases read_whole hDelivery hWord hFits hBody with
        ⟨waited, r', hSame, -⟩
      rw [hSame] at hRead
      refine
        ⟨_,
          isFrame_of_lineOf hWord hFits hBody
            (Option.some.inj hRead),
          rest, ?_⟩
      simp only [List.append_assoc]

/- A line is read exactly if its frame is delivered first. -/
theorem read_eq_ok_iff :
    (read max limit r).outcome = some (.ok line) ↔
      ∃ frame,
        IsFrame max line frame ∧
          frame <+: (r.delivery limit).bytes := by
  constructor
  · exact exists_isFrame_of_read
  · rintro ⟨frame, hFrame, hFront⟩
    rcases read_of_isFrame hFrame hFront with
      ⟨waited, r', hRead, -⟩
    rw [hRead]

/- A message is read exactly if its frame is delivered first. -/
theorem readMessage_eq_ok_iff
    {α : Type}
    {ofLine : String → Except ProtocolError α}
    {message : α} :
    (readMessage ofLine max limit r).outcome =
        some (.ok message) ↔
      ∃ line frame,
        IsFrame max line frame ∧
          frame <+: (r.delivery limit).bytes ∧
          ofLine line = .ok message := by
  constructor
  · intro hRead
    simp only [readMessage] at hRead
    split at hRead
    · cases hRead
    · cases hRead
    · next line hLine =>
        rcases exists_isFrame_of_read hLine with
          ⟨frame, hFrame, hFront⟩
        exact
          ⟨line, frame, hFrame, hFront,
            Option.some.inj hRead⟩
  · rintro ⟨line, frame, hFrame, hFront, hLine⟩
    rcases read_of_isFrame hFrame hFront with
      ⟨waited, r', hRead, -⟩
    simp only [readMessage, hRead, hLine]

/-
  A message that is read is that of a frame at the front,
  and nothing behind the frame is taken.
-/
theorem exists_isFrame_of_readMessage
    {α : Type}
    {ofLine : String → Except ProtocolError α}
    {message : α}
    (hRead :
      (readMessage ofLine max limit r).outcome =
        some (.ok message)) :
    ∃ line frame,
      IsFrame max line frame ∧
        ofLine line = .ok message ∧
        r.content =
          frame ++
            (readMessage ofLine max limit r).reader.content := by
  rcases readMessage_eq_ok_iff.mp hRead with
    ⟨line, frame, hFrame, hFront, hLine⟩
  rcases read_of_isFrame hFrame hFront with
    ⟨waited, r', hSame, hTook⟩
  have hReader :
      (readMessage ofLine max limit r).reader =
        (read max limit r).reader := rfl
  rw [hReader, hSame]
  exact ⟨line, frame, hFrame, hLine, hTook.content⟩

/- A frame that is cut off anywhere is missing its end. -/
theorem read_of_prefix_ne
    {part : Bytes}
    {ending : Stream.Ending}
    (hFrame : IsFrame max line frame)
    (hDelivery : r.delivery limit = ⟨part, ending⟩)
    (hFront : part <+: frame)
    (hNe : part ≠ frame) :
    (read max limit r).outcome = ending.verdict := by
  rcases hFrame.exists_parts with
    ⟨head, full, rfl, hHead, hSize, hFull, -⟩
  rcases hFront with ⟨back, hBack⟩
  -- The length in front is that of the frame, if it is there.
  have hSame (word rest : Bytes)
      (hPart : part = word ++ rest)
      (hWord : word.length = 4) :
      word = head ∧ rest ++ back = full ++ [terminator] := by
    rw [hPart, List.append_assoc] at hBack
    exact List.append_inj hBack (hWord.trans hHead.symm)
  cases opening max part with
  | short part hShort => exact read_short hDelivery hShort
  | tooLarge word rest hWord hLarge =>
      rcases hSame word rest rfl hWord with ⟨rfl, -⟩
      omega
  | cut word rest hWord hFits hCut =>
      exact read_cut hDelivery hWord hFits hCut
  | whole word body last rest hWord hFits hBody =>
      rcases hSame word _ rfl hWord with ⟨rfl, hTail⟩
      have hLength := congrArg List.length hTail
      simp only [List.length_append, List.length_cons,
        List.length_nil] at hLength
      have hRest : rest = [] := by
        rw [← List.length_eq_zero_iff]
        omega
      have hNil : back = [] := by
        rw [← List.length_eq_zero_iff]
        omega
      rw [hNil, List.append_nil] at hBack
      exact absurd hBack hNe

end Frame

end Courier

------------------------------------------------------------
-- One Frame After Another
------------------------------------------------------------

namespace Courier

namespace Frame

/- Write the frames of lines one after the other. -/
def writeEach
    (limit : Nat)
    (w : Stream.Writer)
    (lines : List String) : Stream.Writer :=
  lines.foldl (fun w line => (write limit w line).writer) w

/- Read a number of frames one after the other. -/
def readEach
    (max limit : Nat) :
    Nat → Stream.Reader →
    List (Option (Except ProtocolError String)) × Stream.Reader
  | 0, r => ([], r)
  | count + 1, r =>
      let got := read max limit r
      let (others, r') := readEach max limit count got.reader
      (got.outcome :: others, r')

variable {max limit : Nat}
variable {lines : List String}
variable {frames : List Bytes}

/- Lines that are not too long have frames. -/
theorem exists_frames
    (hFits :
      ∀ line ∈ lines,
        (Utf8.encode line.toList).length ≤ max ∧
          (Utf8.encode line.toList).length ≤ maxLength) :
    ∃ frames, List.Forall₂ (IsFrame max) lines frames := by
  induction lines with
  | nil => exact ⟨[], .nil⟩
  | cons line others ih =>
      rw [List.forall_mem_cons] at hFits
      rcases hFits with ⟨⟨hMax, hShort⟩, hOthers⟩
      rcases ih hOthers with ⟨frames, hFrames⟩
      exact
        ⟨_ :: frames,
          .cons ⟨rfl, hMax, hShort⟩ hFrames⟩

/- Frames that are written come one after the other. -/
theorem written_writeEach
    {w : Stream.Writer}
    (limit : Nat)
    (hOpen : w.IsOpen)
    (hFrames : List.Forall₂ (IsFrame max) lines frames) :
    (writeEach limit w lines).written =
      w.written ++ frames.flatten := by
  induction hFrames generalizing w with
  | nil => simp [writeEach]
  | cons hFrame hOthers ih =>
      rcases write_of_encode limit hOpen hFrame.encode with
        ⟨w', hWrite, hOpen', hWritten⟩
      rw [writeEach, List.foldl_cons, hWrite]
      have hRest := ih hOpen'
      rw [writeEach] at hRest
      rw [hRest, hWritten, List.flatten_cons,
        List.append_assoc]

/-
  Frames at the front of the delivery are read one after the
  other, and nothing behind them is taken.
-/
theorem readEach_of_prefix
    {r : Stream.Reader}
    (hFrames : List.Forall₂ (IsFrame max) lines frames)
    (hFront : frames.flatten <+: (r.delivery limit).bytes) :
    ∃ r',
      readEach max limit lines.length r =
          (lines.map fun line => some (.ok line), r') ∧
        r.content = frames.flatten ++ r'.content := by
  induction hFrames generalizing r with
  | nil => exact ⟨r, rfl, rfl⟩
  | cons hFrame hOthers ih =>
      rw [List.flatten_cons] at hFront
      have hFirst := (List.prefix_append _ _).trans hFront
      rcases read_of_isFrame hFrame hFirst with
        ⟨waited, r₁, hRead, hTook⟩
      have hRest := hTook.delivery
      rw [Nat.sub_zero] at hRest
      -- The next reading may wait as long as the first one.
      have hMore :=
        r₁.delivery_prefix (Nat.sub_le limit waited)
      rw [hRest] at hFront
      rcases
        ih
          (((List.prefix_append_right_inj _).mp hFront).trans
            hMore) with
        ⟨r', hOutcomes, hContent⟩
      refine ⟨r', ?_, ?_⟩
      · simp only [List.length_cons, readEach, hRead,
          hOutcomes, List.map_cons]
      · rw [hTook.content, hContent, List.flatten_cons,
          List.append_assoc]

/- Without a frame nothing of a message is written. -/
theorem writeLine_of_error
    {e : ProtocolError}
    {line : Except ProtocolError String}
    (w : Stream.Writer)
    (hFrame : line.bind encode = .error e) :
    writeLine limit w line = ⟨some (.error e), 0, w⟩ := by
  cases line with
  | error e' =>
      cases hFrame
      rfl
  | ok text => exact write_of_encode_error limit hFrame

end Frame

end Courier

------------------------------------------------------------
-- Frames Delimit Themselves
------------------------------------------------------------

namespace Courier

namespace Frame

/-
  A line is read exactly if a connection delivers its frame
  first, and then nothing but the frame is taken.  A frame
  that is cut off is an end inside a message.  Of a frame
  that is too large only the length is taken.  So lines that
  are written one after the other are read one after the
  other.  Without a frame nothing is written at all.
-/
theorem frames_delimit_themselves
    (max limit : Nat)
    (r : Stream.Reader)
    (w : Stream.Writer) :
    (∀ line,
      (read max limit r).outcome = some (.ok line) ↔
        ∃ frame,
          IsFrame max line frame ∧
            frame <+: (r.delivery limit).bytes) ∧
    (∀ line frame,
      IsFrame max line frame →
      frame <+: (r.delivery limit).bytes →
        Stream.Took limit 0 r frame (read max limit r).waited
          (read max limit r).reader) ∧
    (∀ line frame part,
      IsFrame max line frame →
      r.delivery limit = ⟨part, .closed⟩ →
      part <+: frame →
      part ≠ frame →
        ∃ e,
          (read max limit r).outcome = some (.error e) ∧
            e.isEnd = true) ∧
    (∀ word rest,
      (r.delivery limit).bytes = word ++ rest →
      word.length = 4 →
      max < Bytes.toWord word →
        (read max limit r).outcome =
            some
              (.error
                (.messageTooLarge (Bytes.toWord word) max)) ∧
          Stream.Took limit 0 r word (read max limit r).waited
            (read max limit r).reader) ∧
    (∀ lines : List String,
      (∀ line ∈ lines,
        (Utf8.encode line.toList).length ≤ max ∧
          (Utf8.encode line.toList).length ≤ maxLength) →
      w.IsOpen →
        ∃ frames,
          List.Forall₂ (IsFrame max) lines frames ∧
            (writeEach limit w lines).written =
              w.written ++ frames.flatten ∧
            (frames.flatten <+: (r.delivery limit).bytes →
              ∃ r',
                readEach max limit lines.length r =
                    (lines.map fun line => some (.ok line),
                      r') ∧
                  r.content =
                    frames.flatten ++ r'.content)) ∧
    (∀ (c : Command) e,
      c.toLine.bind encode = .error e →
        writeCommand limit w c = ⟨some (.error e), 0, w⟩) ∧
    (∀ (a : Answer) e,
      a.toLine.bind encode = .error e →
        writeAnswer limit w a = ⟨some (.error e), 0, w⟩) := by
  refine ⟨fun line => read_eq_ok_iff, ?_, ?_, ?_, ?_, ?_, ?_⟩
  · intro line frame hFrame hFront
    rcases read_of_isFrame hFrame hFront with
      ⟨waited, r', hRead, hTook⟩
    rw [hRead]
    exact hTook
  · intro line frame part hFrame hDelivery hFront hNe
    have hOutcome :=
      read_of_prefix_ne hFrame hDelivery hFront hNe
    exact ⟨.io .unexpectedEnd, hOutcome, rfl⟩
  · intro word rest hBytes hWord hLarge
    have hDelivery :
        r.delivery limit =
          ⟨word ++ rest, (r.delivery limit).ending⟩ := by
      rw [← hBytes]
    rcases read_tooLarge hDelivery hWord hLarge with
      ⟨waited, r', hRead, hTook⟩
    rw [hRead]
    exact ⟨rfl, hTook⟩
  · intro lines hFits hOpen
    rcases exists_frames hFits with ⟨frames, hFrames⟩
    exact
      ⟨frames, hFrames,
        written_writeEach limit hOpen hFrames,
        readEach_of_prefix hFrames⟩
  · intro c e hFrame
    exact writeLine_of_error w hFrame
  · intro a e hFrame
    exact writeLine_of_error w hFrame

/-
  Two frames and one octet more, cut inside a length and
  with waits in between.
-/
def choppyReader : Stream.Reader :=
  [.data [0, 0], .delay 3, .data [0, 1, 97], .data [],
    .data [10, 0, 0, 0], .delay 2,
    .data [3, 195, 169, 10, 10, 7], .stall]

/-
  Two lines are written, and read from pieces of their
  frames.  A frame without its end and one above the bound
  are refused, and a text of two lines is not written.
-/
theorem frames_delimit_themselves_choppy :
    (writeEach 5 .endless ["a", "é\n"]).written =
        [0, 0, 0, 1, 97, 10, 0, 0, 0, 3, 195, 169, 10, 10] ∧
      (∃ r',
        readEach 3 5 2 choppyReader =
            ([some (.ok "a"), some (.ok "é\n")], r') ∧
          r'.content = [7]) ∧
      (∃ e,
        (read 3 5 (.ofBytes [0, 0, 0, 1, 97])).outcome =
            some (.error e) ∧
          e.isEnd = true) ∧
      (read 3 5 (.ofBytes [0, 0, 0, 4, 97])).outcome =
        some (.error (.messageTooLarge 4 3)) ∧
      writeCommand 5 .endless
          { Command.make "log" "LOG" with entity := "a\nb" } =
        ⟨some
            (.error (.malformed (.lineBreakInField "a\nb"))),
          0, .endless⟩ := by
  rcases frames_delimit_themselves 3 5 choppyReader .endless
    with ⟨-, -, -, -, hLines, hCommand, -⟩
  rcases
    hLines ["a", "é\n"] (by decide)
      Stream.Writer.isOpen_endless with
    ⟨frames, -, hWritten, hRead⟩
  have hBytes :
      [0, 0, 0, 1, 97, 10, 0, 0, 0, 3, 195, 169, 10, 10] =
        frames.flatten :=
    hWritten
  rw [← hBytes] at hRead
  rcases hRead (by decide) with ⟨r', hOutcomes, hContent⟩
  have hFrame : IsFrame 3 "a" [0, 0, 0, 1, 97, 10] :=
    ⟨rfl, by decide, by decide⟩
  have hCut :=
    (frames_delimit_themselves 3 5
      (.ofBytes [0, 0, 0, 1, 97]) .endless).2.2.1
      "a" _ [0, 0, 0, 1, 97] hFrame rfl (by decide) (by decide)
  have hLarge :=
    (frames_delimit_themselves 3 5
      (.ofBytes [0, 0, 0, 4, 97]) .endless).2.2.2.1
      [0, 0, 0, 4] [97] rfl rfl (by decide)
  refine
    ⟨rfl, ⟨r', hOutcomes, ?_⟩, hCut, hLarge.1,
      hCommand _ _ rfl⟩
  have hSame :
      ([0, 0, 0, 1, 97, 10, 0, 0, 0, 3, 195, 169, 10, 10] :
          Bytes) ++ [7] =
        [0, 0, 0, 1, 97, 10, 0, 0, 0, 3, 195, 169, 10, 10] ++
          r'.content :=
    hContent
  exact (List.append_cancel_left hSame).symm

end Frame

end Courier
