import Courier.Proofs.Stream.Writer
import Courier.Proofs.Text.Utf8
import Courier.Stream.Frame

/-
  Frames on writers, which take all of them or a part, and
  the parts in which they are read.

  A frame spells its own length, so that what comes behind
  it cannot be taken for a part of it.

  Key definitions include:
    * `Frame.readBody`
    * `Frame.IsFrame`

  Key theorems include:
    * `Frame.encode_append_inj`
    * `Frame.write_of_encode`
    * `Frame.written_write`
    * `Frame.read_eq`
    * `Frame.IsFrame.exists_parts`
-/

------------------------------------------------------------
-- Layout
------------------------------------------------------------

namespace Courier

namespace Frame

/- When a line has a frame, and which one. -/
theorem encode_eq_ok_iff
    {line : String}
    {frame : Bytes} :
    encode line = .ok frame ↔
      (Utf8.encode line.toList).length ≤ maxLength ∧
        frame =
          Bytes.ofWord (Utf8.encode line.toList).length ++
            (Utf8.encode line.toList ++ [terminator]) := by
  simp only [encode, parts]
  by_cases hFits :
      (Utf8.encode line.toList).length ≤ maxLength
  · simp [hFits, eq_comm]
  · simp [hFits]

/- Different lines have different bytes in UTF-8. -/
theorem eq_of_encode_eq
    {a b : String}
    (hEq : Utf8.encode a.toList = Utf8.encode b.toList) :
    a = b := by
  have hDecode := Utf8.decode_encode a.toList
  rw [hEq, Utf8.decode_encode] at hDecode
  exact (String.toList_inj.mp (Except.ok.inj hDecode)).symm

/-
  A frame and what comes behind it are told apart in one way
  only.
-/
theorem encode_append_inj
    {a b : String}
    {first second rest more : Bytes}
    (hFirst : encode a = .ok first)
    (hSecond : encode b = .ok second)
    (hEq : first ++ rest = second ++ more) :
    a = b ∧ rest = more := by
  rcases encode_eq_ok_iff.mp hFirst with ⟨hFits, rfl⟩
  rcases encode_eq_ok_iff.mp hSecond with ⟨hFits', rfl⟩
  simp only [List.append_assoc] at hEq
  have hWords := List.append_inj hEq rfl
  have hLength :
      (Utf8.encode a.toList).length =
        (Utf8.encode b.toList).length := by
    have hWord := congrArg Bytes.toWord hWords.1
    unfold maxLength at hFits hFits'
    rwa [Bytes.toWord_ofWord (by omega),
      Bytes.toWord_ofWord (by omega)] at hWord
  have hBodies := List.append_inj hWords.2 hLength
  have hEnds := List.append_inj hBodies.2 rfl
  exact ⟨eq_of_encode_eq hBodies.1, hEnds.2⟩

end Frame

end Courier

------------------------------------------------------------
-- Writing
------------------------------------------------------------

namespace Courier

namespace Frame

/- All parts of a frame are taken. -/
theorem writeParts_of_isOpen
    {w : Stream.Writer}
    (limit : Nat)
    (all : List Bytes)
    (hOpen : w.IsOpen) :
    ∃ w',
      writeParts limit w all = ⟨some (.ok ()), 0, w'⟩ ∧
        w'.IsOpen ∧
        w'.written = w.written ++ all.flatten := by
  induction all generalizing w with
  | nil =>
      refine ⟨w, ?_, hOpen, by simp⟩
      rw [writeParts, Stream.Writer.flush_of_isOpen hOpen]
  | cons part rest ih =>
      rcases ih (hOpen.take part) with
        ⟨w', hRest, hOpen', hWritten⟩
      refine ⟨w', ?_, hOpen', ?_⟩
      · rw [writeParts,
          Stream.Writer.write_of_isOpen hOpen]
        exact hRest
      · rw [hWritten, Stream.Writer.written_take]
        simp

/- A line with a frame is written as that frame. -/
theorem write_of_encode
    {w : Stream.Writer}
    {line : String}
    {frame : Bytes}
    (limit : Nat)
    (hOpen : w.IsOpen)
    (hFrame : encode line = .ok frame) :
    ∃ w',
      write limit w line = ⟨some (.ok ()), 0, w'⟩ ∧
        w'.IsOpen ∧
        w'.written = w.written ++ frame := by
  unfold encode at hFrame
  unfold write
  cases hParts : parts line with
  | error e =>
      rw [hParts] at hFrame
      cases hFrame
  | ok all =>
      rw [hParts] at hFrame
      cases hFrame
      exact writeParts_of_isOpen limit all hOpen

/- A line without a frame is not written. -/
theorem write_of_encode_error
    {w : Stream.Writer}
    {line : String}
    {e : ProtocolError}
    (limit : Nat)
    (hFrame : encode line = .error e) :
    write limit w line = ⟨some (.error e), 0, w⟩ := by
  unfold encode at hFrame
  unfold write
  cases hParts : parts line with
  | error e' =>
      rw [hParts] at hFrame
      cases hFrame
      rfl
  | ok all =>
      rw [hParts] at hFrame
      cases hFrame

end Frame

end Courier

------------------------------------------------------------
-- Writers That May Refuse
------------------------------------------------------------

namespace Courier

namespace Frame

/-
  Of the parts of a frame a writer takes as much as it has
  room for.  The frame was written if that is all of it, and
  if the writer gets rid of it.
-/
theorem written_writeParts
    (limit : Nat)
    (w : Stream.Writer)
    (all : List Bytes) :
    (writeParts limit w all).writer.written =
        w.written ++ w.accepted all.flatten ∧
      ((writeParts limit w all).outcome = some (.ok ()) ↔
        w.capacity all.flatten.length = all.flatten.length ∧
          w.flushOutcome = .done ()) ∧
      (w.capacity all.flatten.length = all.flatten.length →
        w.IsAfter all.flatten
          (writeParts limit w all).writer) := by
  induction all generalizing w with
  | nil =>
      have hNothing : w.capacity 0 = 0 :=
        Nat.le_zero.mp (w.capacity_le 0)
      unfold writeParts Stream.Writer.flush
      simp only [List.flatten_nil, List.length_nil, hNothing,
        Stream.Writer.accepted, List.take_nil,
        List.append_nil, true_and]
      cases w.flushOutcome with
      | done u =>
          cases u
          exact ⟨rfl, by simp, fun _ => w.isAfter_nil⟩
      | failed e =>
          exact ⟨rfl, by simp, fun _ => w.isAfter_nil⟩
      | ended => exact ⟨rfl, by simp, fun _ => w.isAfter_nil⟩
      | timedOut =>
          exact ⟨rfl, by simp, fun _ => w.isAfter_nil⟩
  | cons part rest ih =>
      rw [List.flatten_cons]
      rcases Nat.lt_or_eq_of_le (w.capacity_le part.length)
        with hRefused | hRoom
      · rcases
          Stream.Writer.write_of_capacity_lt limit hRefused with
          ⟨waited, hWrite⟩
        have hAll :
            w.capacity (part ++ rest.flatten).length ≠
              (part ++ rest.flatten).length := by
          rw [List.length_append,
            Stream.Writer.capacity_of_lt hRefused
              (Nat.le_add_right _ _)]
          omega
        have hWritten := w.written_take (w.accepted part)
        rw [Stream.Writer.accepted_append_of_lt hRefused]
        simp only [writeParts, hWrite, hAll, false_and,
          iff_false, false_implies, and_true]
        cases hRefusal : w.refusal with
        | done u => exact absurd hRefusal w.refusal_ne_done
        | failed e => exact ⟨hWritten, by simp⟩
        | ended => exact ⟨hWritten, by simp⟩
        | timedOut => exact ⟨hWritten, by simp⟩
      · have hAfter := w.isAfter_take part
        have hRest := ih (w.take part)
        rw [hAfter.written, hAfter.flush] at hRest
        simp only [writeParts,
          Stream.Writer.write_of_capacity limit hRoom]
        rw [hAfter.accepted_append hRoom,
          hAfter.capacity_append hRoom, ← List.append_assoc]
        refine ⟨hRest.1, hRest.2.1, ?_⟩
        intro hMore
        exact hAfter.trans (hRest.2.2 hMore)

/- So does the frame of a line. -/
theorem written_write
    {line : String}
    {frame : Bytes}
    (limit : Nat)
    (w : Stream.Writer)
    (hFrame : encode line = .ok frame) :
    (write limit w line).writer.written =
        w.written ++ w.accepted frame ∧
      ((write limit w line).outcome = some (.ok ()) ↔
        w.capacity frame.length = frame.length ∧
          w.flushOutcome = .done ()) ∧
      (w.capacity frame.length = frame.length →
        w.IsAfter frame (write limit w line).writer) := by
  unfold encode at hFrame
  unfold write
  cases hParts : parts line with
  | error e =>
      rw [hParts] at hFrame
      cases hFrame
  | ok all =>
      rw [hParts] at hFrame
      cases hFrame
      exact written_writeParts limit w all

end Frame

end Courier

------------------------------------------------------------
-- Frames of Lines
------------------------------------------------------------

namespace Courier

namespace Frame

/- The line of a body, if the octet after it ends the frame. -/
def lineOf
    (body last : Bytes) : Except ProtocolError String :=
  if last = [terminator] then lineOfBody body
  else .error .missingTerminator

/- Read what follows the length of a frame. -/
def readBody
    (limit length waited : Nat)
    (r : Stream.Reader) : Received String :=
  Received.next limit length waited r fun body waited r =>
    Received.next limit 1 waited r fun last waited r =>
      ⟨some (lineOf body last), waited, r⟩

/- A frame is read as its length and what follows that. -/
theorem read_eq
    (max limit : Nat)
    (r : Stream.Reader) :
    read max limit r =
      Received.next limit 4 0 r fun word waited r =>
        if max < Bytes.toWord word then
          ⟨some
              (.error
                (.messageTooLarge (Bytes.toWord word) max)),
            waited, r⟩
        else
          readBody limit (Bytes.toWord word) waited r := by
  have hLast (body last : Bytes) (waited : Nat)
      (r : Stream.Reader) :
      (if last = [terminator] then
          (⟨some (lineOfBody body), waited, r⟩
            : Received String)
        else
          ⟨some (.error .missingTerminator), waited, r⟩) =
        ⟨some (lineOf body last), waited, r⟩ := by
    unfold lineOf
    split <;> rfl
  simp only [read, readBody, hLast]

/-
  The frame of a line of at most `max` octets: the number of
  its octets, which four octets can say, then those octets,
  then the end of the frame.
-/
structure IsFrame
    (max : Nat)
    (line : String)
    (frame : Bytes) : Prop where
  octets :
    frame =
      Bytes.ofWord (Utf8.encode line.toList).length ++
        (Utf8.encode line.toList ++ [terminator])
  fits : (Utf8.encode line.toList).length ≤ max
  short : (Utf8.encode line.toList).length ≤ maxLength

variable {max : Nat}
variable {line : String}
variable {frame : Bytes}

/- A line is written as its frame. -/
theorem IsFrame.encode
    (hFrame : IsFrame max line frame) :
    encode line = .ok frame :=
  encode_eq_ok_iff.mpr ⟨hFrame.short, hFrame.octets⟩

/- A frame is a length, a body of that length and an end. -/
theorem IsFrame.exists_parts
    (hFrame : IsFrame max line frame) :
    ∃ word body,
      frame = word ++ (body ++ [terminator]) ∧
        word.length = 4 ∧
        Bytes.toWord word ≤ max ∧
        body.length = Bytes.toWord word ∧
        lineOf body [terminator] = .ok line := by
  have hShort := hFrame.short
  have hWord :
      Bytes.toWord
          (Bytes.ofWord (Utf8.encode line.toList).length) =
        (Utf8.encode line.toList).length := by
    unfold maxLength at hShort
    exact Bytes.toWord_ofWord (by omega)
  refine
    ⟨_, _, hFrame.octets, Bytes.length_ofWord _, ?_,
      hWord.symm, ?_⟩
  · rw [hWord]
    exact hFrame.fits
  · rw [lineOf, if_pos rfl, lineOfBody, Utf8.decode_encode]
    simp only [String.ofList_toList]

end Frame

end Courier
