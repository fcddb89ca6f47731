import Courier.Proofs.Stream.Arrival
import Courier.Proofs.Stream.Writer
import Courier.Stream.Copy

/-
  Copies of a given number of bytes.

  A copy goes on in rounds, each of which moves one piece.
  How it ends depends on the bytes that arrive in time and
  on the room of the writer, and on nothing else: neither on
  the buffer nor on the pieces that the bytes arrive in.

  Key definitions include:
    * `Stream.Writer.closing`
    * `Copy.Round`
    * `Copy.round`
    * `Copy.Course`
    * `Copy.Rounds`
    * `Copy.handedOn`
    * `Copy.verdict`

  Key theorems include:
    * `Copy.course_round`
    * `Copy.rounds_pieces`
    * `Copy.through_eq_verdict`
    * `Copy.through_eq_ok`
    * `Copy.through_eq_error`
-/

------------------------------------------------------------
-- Faults
------------------------------------------------------------

namespace Courier

/- How a copy breaks off with some bytes missing. -/
def Stream.Ending.fault
    (missing total : Nat) : Stream.Ending → Copy.Fault
  | .closed => .short missing total
  | .late => .readTimedOut
  | .broken e => .reader e

/- How a copy breaks off at a writer without room. -/
def Stream.Writer.fault
    (w : Stream.Writer) : Copy.Fault :=
  match w.refusal with
  | .failed e => .writer e
  | .done () | .ended | .timedOut => .writeTimedOut

/- How a copy ends when its writer has taken everything. -/
def Stream.Writer.closing
    (total : Nat)
    (w : Stream.Writer) : Except Copy.Fault Nat :=
  match w.flushOutcome with
  | .done () => .ok total
  | .failed e => .error (.writer e)
  | .ended | .timedOut => .error .flushTimedOut

/- It ends well exactly if the writer gets rid of it all. -/
theorem Stream.Writer.closing_eq_ok_iff
    {total n : Nat}
    {w : Stream.Writer} :
    w.closing total = .ok n ↔
      n = total ∧ w.flushOutcome = .done () := by
  unfold closing
  constructor
  · intro hOk
    split at hOk
    · next hFlush =>
        cases hOk
        exact ⟨rfl, hFlush⟩
    · cases hOk
    · cases hOk
    · cases hOk
  · rintro ⟨rfl, hFlush⟩
    rw [hFlush]

end Courier

------------------------------------------------------------
-- Rounds
------------------------------------------------------------

namespace Courier

namespace Copy

/- What comes of a round: the copy is over, or goes on. -/
inductive Round where
| ended : Result → Round
| next :
    (piece : Bytes) → (waited : Nat) → Stream.Reader →
    Stream.Writer → Round

/- A round, in which one piece is read and written. -/
def round
    (total size limit remaining waited : Nat)
    (r : Stream.Reader)
    (w : Stream.Writer) : Round :=
  let step := r.read (min remaining size) limit
  let waited := waited + step.waited
  match step.outcome with
  | .timedOut =>
      .ended ⟨.error .readTimedOut, waited, step.reader, w⟩
  | .failed e =>
      .ended ⟨.error (.reader e), waited, step.reader, w⟩
  | .ended | .done [] =>
      .ended
        ⟨.error (.short remaining total), waited, step.reader,
          w⟩
  | .done (b :: bs) =>
      let out := w.write limit (b :: bs)
      let waited := waited + out.waited
      match out.outcome with
      | .done () =>
          .next (b :: bs) waited step.reader out.writer
      | .failed e =>
          .ended
            ⟨.error (.writer e), waited, step.reader,
              out.writer⟩
      | .ended | .timedOut =>
          .ended
            ⟨.error .writeTimedOut, waited, step.reader,
              out.writer⟩

variable {total size limit remaining waited : Nat}
variable {r : Stream.Reader}
variable {w : Stream.Writer}

/- A copy is one round after the other. -/
theorem pieces_eq_round
    (hLeft : remaining ≠ 0) :
    pieces total size limit remaining waited r w =
      match round total size limit remaining waited r w with
      | .ended x => x
      | .next piece waited' r' w' =>
          pieces total size limit (remaining - piece.length)
            waited' r' w' := by
  rw [pieces, if_neg hLeft]
  unfold round
  generalize r.read (min remaining size) limit = step
  rcases step with ⟨outcome, ms, next⟩
  match outcome with
  | .timedOut => rfl
  | .failed e => rfl
  | .ended => rfl
  | .done [] => rfl
  | .done (b :: bs) =>
      dsimp only
      generalize w.write limit (b :: bs) = out
      rcases out with ⟨result, more, w'⟩
      cases result <;> rfl

/-
  A piece that is read within the limit: it fits into the
  buffer and into what remains, and is the next to arrive.
-/
structure Fetched
    (size limit remaining : Nat)
    (r next : Stream.Reader)
    (piece : Bytes) : Prop where
  some : 0 < piece.length
  most : piece.length ≤ remaining
  fits : piece.length ≤ size
  arrival :
    r.arrival limit = .after piece (next.arrival limit)
  content : r.content = piece ++ next.content

/-
  What a round can do.  Without bytes the copy is over as
  the arrival is.  Otherwise a piece of them is read, and
  the copy goes on unless the writer has no room for it.
-/
inductive Course
    (total size limit remaining : Nat)
    (r : Stream.Reader)
    (w : Stream.Writer) : Round → Prop where
| starved
    (waited : Nat)
    (next : Stream.Reader)
    (hNone : (r.arrival limit).bytes = []) :
    Course total size limit remaining r w
      (.ended
        ⟨.error
            ((r.arrival limit).ending.fault remaining total),
          waited, next, w⟩)
| moved
    (waited : Nat)
    {next : Stream.Reader}
    {piece : Bytes}
    (hFetched : Fetched size limit remaining r next piece)
    (hRoom : w.capacity piece.length = piece.length) :
    Course total size limit remaining r w
      (.next piece waited next (w.take piece))
| refused
    (waited : Nat)
    {next : Stream.Reader}
    {piece : Bytes}
    (hFetched : Fetched size limit remaining r next piece)
    (hRefused : w.capacity piece.length < piece.length) :
    Course total size limit remaining r w
      (.ended
        ⟨.error w.fault, waited, next,
          w.take (piece.take (w.capacity piece.length))⟩)

/- Without bytes a round ends as the arrival does. -/
theorem course_round_of_nil
    (total limit waited : Nat)
    (w : Stream.Writer)
    (hNone : (r.arrival limit).bytes = []) :
    Course total size limit remaining r w
      (round total size limit remaining waited r w) := by
  have hOutcome :=
    Stream.Reader.readFrom_nil (min remaining size) hNone
  rw [← Stream.Reader.arrival, ← Stream.Reader.read]
    at hOutcome
  have hStarved {fault : Fault} (waited : Nat) next
      (hFault :
        (r.arrival limit).ending.fault remaining total =
          fault) :
      Course total size limit remaining r w
        (.ended ⟨.error fault, waited, next, w⟩) :=
    hFault ▸ .starved waited next hNone
  simp only [round, hOutcome]
  cases hEnding : (r.arrival limit).ending with
  | closed => exact hStarved _ _ (by rw [hEnding]; rfl)
  | late => exact hStarved _ _ (by rw [hEnding]; rfl)
  | broken e => exact hStarved _ _ (by rw [hEnding]; rfl)

/- While there are bytes a round reads some of them. -/
theorem exists_fetched
    {limit : Nat}
    (hSize : 0 < size)
    (hLeft : 0 < remaining)
    (hSome : (r.arrival limit).bytes ≠ []) :
    ∃ b bs,
      (r.read (min remaining size) limit).outcome =
          .done (b :: bs) ∧
        Fetched size limit remaining r
          (r.read (min remaining size) limit).reader
          (b :: bs) := by
  have hWant : 0 < min remaining size :=
    Nat.lt_min.mpr ⟨hLeft, hSize⟩
  rcases Stream.Reader.readFrom_cons hWant hSome with
    ⟨b, bs, hDone, hMost, hArrival, hContent⟩
  rw [← Stream.Reader.arrival] at hArrival
  exact
    ⟨b, bs, hDone,
      { some := Nat.succ_pos _
        most := (Nat.le_min.mp hMost).1
        fits := (Nat.le_min.mp hMost).2
        arrival := hArrival
        content := hContent }⟩

/- A round takes one of these courses. -/
theorem course_round
    (total limit waited : Nat)
    (r : Stream.Reader)
    (w : Stream.Writer)
    (hSize : 0 < size)
    (hLeft : 0 < remaining) :
    Course total size limit remaining r w
      (round total size limit remaining waited r w) := by
  by_cases hNone : (r.arrival limit).bytes = []
  · exact course_round_of_nil total limit waited w hNone
  rcases exists_fetched hSize hLeft hNone with
    ⟨b, bs, hDone, hFetched⟩
  simp only [round, hDone]
  rcases Nat.lt_or_eq_of_le (w.capacity_le (b :: bs).length)
    with hRefused | hRoom
  · rcases
      Stream.Writer.write_of_capacity_lt limit hRefused with
      ⟨more, hWrite⟩
    have hFailed {fault : Fault} (waited : Nat)
        (hFault : w.fault = fault) :
        Course total size limit remaining r w
          (.ended
            ⟨.error fault, waited,
              (r.read (min remaining size) limit).reader,
              w.take
                ((b :: bs).take
                  (w.capacity (b :: bs).length))⟩) :=
      hFault ▸ .refused waited hFetched hRefused
    simp only [hWrite]
    unfold Stream.Writer.fault at hFailed
    cases hRefusal : w.refusal with
    | failed e => exact hFailed _ (by rw [hRefusal])
    | timedOut => exact hFailed _ (by rw [hRefusal])
    | ended => exact hFailed _ (by rw [hRefusal])
    | done u => exact absurd hRefusal w.refusal_ne_done
  · simp only [Stream.Writer.write_of_capacity limit hRoom]
    exact .moved _ hFetched hRoom

/- A copy as the rounds that it goes through, with courses. -/
inductive Rounds
    (total size limit : Nat) :
    Nat → Nat → Stream.Reader → Stream.Writer → Result →
      Prop where
| finish
    (waited : Nat)
    (r : Stream.Reader)
    (w : Stream.Writer) :
    Rounds total size limit 0 waited r w
      (finish total limit waited r w)
| ended
    {remaining waited : Nat}
    {r : Stream.Reader}
    {w : Stream.Writer}
    {x : Result}
    (hLeft : 0 < remaining)
    (hEnded :
      round total size limit remaining waited r w = .ended x)
    (hCourse :
      Course total size limit remaining r w (.ended x)) :
    Rounds total size limit remaining waited r w x
| next
    {remaining waited waited' : Nat}
    {r r' : Stream.Reader}
    {w : Stream.Writer}
    {piece : Bytes}
    {x : Result}
    (hLeft : 0 < remaining)
    (hNext :
      round total size limit remaining waited r w =
        .next piece waited' r' (w.take piece))
    (hFetched : Fetched size limit remaining r r' piece)
    (hRoom : w.capacity piece.length = piece.length)
    (hRest :
      Rounds total size limit (remaining - piece.length)
        waited' r' (w.take piece) x) :
    Rounds total size limit remaining waited r w x

/- Every copy comes to its end after some rounds. -/
theorem rounds_pieces
    (total limit remaining waited : Nat)
    (r : Stream.Reader)
    (w : Stream.Writer)
    (hSize : 0 < size) :
    Rounds total size limit remaining waited r w
      (pieces total size limit remaining waited r w) := by
  induction hLeft : remaining using
      Nat.strongRecOn generalizing remaining waited r w with
  | _ left ih =>
      subst hLeft
      by_cases hZero : remaining = 0
      · subst hZero
        rw [pieces, if_pos rfl]
        exact .finish waited r w
      · have hLeft := Nat.pos_of_ne_zero hZero
        have hCourse :=
          course_round total limit waited r w hSize hLeft
        rw [pieces_eq_round hZero]
        cases hRound :
          round total size limit remaining waited r w with
        | ended x => exact .ended hLeft hRound (hRound ▸ hCourse)
        | next piece waited' r' w' =>
            rw [hRound] at hCourse
            cases hCourse with
            | moved _ hFetched hRoom =>
                have hSome := hFetched.some
                exact .next hLeft hRound hFetched hRoom
                  (ih _ (by omega) _ _ _ _ rfl)

end Copy

end Courier

------------------------------------------------------------
-- What a Copy Comes To
------------------------------------------------------------

namespace Courier

namespace Copy

/- The bytes that a copy hands on. -/
def handedOn
    (remaining : Nat)
    (a : Stream.Arrival)
    (w : Stream.Writer) : Bytes :=
  a.bytes.take (w.capacity (min remaining a.bytes.length))

/-
  How a copy ends: as the writer does if it has no room for
  the bytes, else as the arrival does if there are too few.
-/
def verdict
    (total remaining : Nat)
    (a : Stream.Arrival)
    (w : Stream.Writer) : Except Fault Nat :=
  let due := min remaining a.bytes.length
  if w.capacity due < due then
    .error w.fault
  else if a.bytes.length < remaining then
    .error
      (a.ending.fault (remaining - a.bytes.length) total)
  else
    w.closing total

variable {total size limit remaining waited : Nat}
variable {r : Stream.Reader}
variable {w : Stream.Writer}
variable {piece : Bytes}

/-
  With enough bytes and room for them, a copy ends as the
  writer gets rid of them.
-/
theorem verdict_of_enough
    {a : Stream.Arrival}
    (total : Nat)
    (hRoom : w.capacity remaining = remaining)
    (hEnough : remaining ≤ a.bytes.length) :
    verdict total remaining a w =
        w.closing total ∧
      handedOn remaining a w = a.bytes.take remaining := by
  unfold verdict handedOn
  simp only [Nat.min_eq_left hEnough, hRoom, Nat.lt_irrefl,
    Nat.not_lt.mpr hEnough, if_false, and_self]

/-
  With too few bytes and room for them, a copy ends as they
  do, and hands on all of them.
-/
theorem verdict_of_few
    {a : Stream.Arrival}
    (total : Nat)
    (hRoom : w.capacity a.bytes.length = a.bytes.length)
    (hFew : a.bytes.length < remaining) :
    verdict total remaining a w =
        .error
          (a.ending.fault (remaining - a.bytes.length)
            total) ∧
      handedOn remaining a w = a.bytes := by
  unfold verdict handedOn
  simp only [Nat.min_eq_right (Nat.le_of_lt hFew), hRoom,
    Nat.lt_irrefl, if_false, if_pos hFew, List.take_length,
    and_self]

/-
  A copy ends well exactly if there are enough bytes and the
  writer has room for them and gets rid of them.
-/
theorem verdict_eq_ok_iff
    {a : Stream.Arrival}
    {n : Nat} :
    verdict total remaining a w = .ok n ↔
      n = total ∧
        remaining ≤ a.bytes.length ∧
        w.capacity remaining = remaining ∧
        w.flushOutcome = .done () := by
  constructor
  · intro hOk
    simp only [verdict] at hOk
    split at hOk
    · cases hOk
    · next hRoom =>
        split at hOk
        · cases hOk
        · next hFew =>
            have hEnough := Nat.not_lt.mp hFew
            rw [Nat.min_eq_left hEnough] at hRoom
            rcases Stream.Writer.closing_eq_ok_iff.mp hOk with
              ⟨rfl, hFlush⟩
            exact
              ⟨rfl, hEnough,
                Nat.le_antisymm (w.capacity_le _)
                  (Nat.not_lt.mp hRoom),
                hFlush⟩
  · rintro ⟨rfl, hEnough, hRoom, hFlush⟩
    rw [(verdict_of_enough n hRoom hEnough).1]
    exact Stream.Writer.closing_eq_ok_iff.mpr ⟨rfl, hFlush⟩

/- The bytes that are due after a piece was moved. -/
theorem due_after
    (a : Stream.Arrival)
    (hPiece : piece.length ≤ remaining) :
    min remaining (piece ++ a.bytes).length =
      piece.length +
        min (remaining - piece.length) a.bytes.length := by
  rw [List.length_append]
  omega

/- A piece that is moved belongs to what is handed on. -/
theorem handedOn_after
    (a : Stream.Arrival)
    (hPiece : piece.length ≤ remaining)
    (hRoom : w.capacity piece.length = piece.length) :
    handedOn remaining (.after piece a) w =
      piece ++
        handedOn (remaining - piece.length) a
          (w.take piece) := by
  have hMore :=
    w.capacity_mono
      (Nat.le_add_right piece.length
        (min (remaining - piece.length) a.bytes.length))
  rw [hRoom] at hMore
  unfold handedOn
  simp only [Stream.Arrival.after]
  rw [due_after a hPiece, Stream.Writer.capacity_take,
    List.take_append, List.take_of_length_le hMore]

/- A piece that is moved does not change how a copy ends. -/
theorem verdict_after
    (total : Nat)
    (a : Stream.Arrival)
    (hPiece : piece.length ≤ remaining)
    (hRoom : w.capacity piece.length = piece.length) :
    verdict total remaining (.after piece a) w =
      verdict total (remaining - piece.length) a
        (w.take piece) := by
  have hMore :=
    w.capacity_mono
      (Nat.le_add_right piece.length
        (min (remaining - piece.length) a.bytes.length))
  rw [hRoom] at hMore
  have hFault : (w.take piece).fault = w.fault := rfl
  have hClosing :
      (w.take piece).closing total = w.closing total := rfl
  have hMissing :
      remaining - (piece ++ a.bytes).length =
        remaining - piece.length - a.bytes.length := by
    rw [List.length_append]
    omega
  have hFew :
      (piece ++ a.bytes).length < remaining ↔
        a.bytes.length < remaining - piece.length := by
    rw [List.length_append]
    omega
  have hRefused :
      w.capacity
            (piece.length +
              min (remaining - piece.length)
                a.bytes.length) <
          piece.length +
            min (remaining - piece.length) a.bytes.length ↔
        w.capacity
              (piece.length +
                min (remaining - piece.length)
                  a.bytes.length) -
            piece.length <
          min (remaining - piece.length) a.bytes.length := by
    omega
  unfold verdict
  simp only [Stream.Arrival.after, due_after a hPiece,
    Stream.Writer.capacity_take, hFault, hClosing, hMissing,
    hFew, hRefused]

/-
  A piece that is refused is handed on as far as there is
  room, and the copy ends as the writer does.
-/
theorem refused_after
    (total : Nat)
    (a : Stream.Arrival)
    (hPiece : piece.length ≤ remaining)
    (hRefused : w.capacity piece.length < piece.length) :
    verdict total remaining (.after piece a) w =
        .error w.fault ∧
      handedOn remaining (.after piece a) w =
        piece.take (w.capacity piece.length) := by
  have hSame :=
    Stream.Writer.capacity_of_lt hRefused
      (Nat.le_add_right piece.length
        (min (remaining - piece.length) a.bytes.length))
  constructor
  · unfold verdict
    simp only [Stream.Arrival.after, due_after a hPiece, hSame]
    exact if_pos (by omega)
  · unfold handedOn
    simp only [Stream.Arrival.after, due_after a hPiece, hSame]
    exact List.take_append_of_le_length (by omega)

/-
  A copy ends as what arrives and what is taken say, and
  hands on what they say.
-/
theorem Rounds.eq_verdict
    {x : Result}
    (hRounds :
      Rounds total size limit remaining waited r w x) :
    x.outcome = verdict total remaining (r.arrival limit) w ∧
      x.writer.written =
        w.written ++
          handedOn remaining (r.arrival limit) w := by
  have hNothing (w : Stream.Writer) : w.capacity 0 = 0 :=
    Nat.le_zero.mp (w.capacity_le 0)
  induction hRounds with
  | finish waited r w =>
      unfold Copy.finish Stream.Writer.flush verdict handedOn
        Stream.Writer.closing
      simp only [Nat.zero_min, hNothing, Nat.lt_irrefl,
        if_false, Nat.not_lt_zero, List.take_zero,
        List.append_nil]
      cases w.flushOutcome with
      | done _ => exact ⟨rfl, rfl⟩
      | failed _ => exact ⟨rfl, rfl⟩
      | ended => exact ⟨rfl, rfl⟩
      | timedOut => exact ⟨rfl, rfl⟩
  | ended hLeft _ hCourse =>
      cases hCourse with
      | starved waited' next hNone =>
          unfold verdict handedOn
          simp only [hNone, List.length_nil, Nat.min_zero,
            hNothing, Nat.lt_irrefl, if_false, if_pos hLeft,
            Nat.sub_zero, List.take_nil, List.append_nil,
            and_self]
      | @refused waited' next piece hFetched hRefused =>
          rcases refused_after total (next.arrival limit)
            hFetched.most hRefused with ⟨hVerdict, hHanded⟩
          rw [hFetched.arrival, hVerdict, hHanded]
          exact ⟨rfl, Stream.Writer.written_take _ _⟩
  | next _ _ hFetched hRoom _ ih =>
      rw [hFetched.arrival,
        verdict_after total _ hFetched.most hRoom,
        handedOn_after _ hFetched.most hRoom,
        ← List.append_assoc, ← Stream.Writer.written_take]
      exact ih

/-
  A copy that succeeds takes exactly what it copies off the
  reader, and leaves an open writer open.
-/
theorem Rounds.reader_of_ok
    {n : Nat}
    {x : Result}
    (hRounds : Rounds total size limit remaining waited r w x)
    (hOk : x.outcome = .ok n) :
    x.reader.arrival limit =
        { r.arrival limit with
          bytes := (r.arrival limit).bytes.drop remaining } ∧
      x.reader.content = r.content.drop remaining ∧
      (w.IsOpen → x.writer.IsOpen) := by
  induction hRounds with
  | finish waited r w =>
      unfold Copy.finish Stream.Writer.flush
      cases w.flushOutcome with
      | done _ => exact ⟨rfl, rfl, id⟩
      | failed _ => exact ⟨rfl, rfl, id⟩
      | ended => exact ⟨rfl, rfl, id⟩
      | timedOut => exact ⟨rfl, rfl, id⟩
  | ended _ _ hCourse =>
      cases hCourse with
      | starved => cases hOk
      | refused => cases hOk
  | next _ _ hFetched _ _ ih =>
      rcases ih hOk with ⟨hArrival, hContent, hOpen⟩
      refine ⟨?_, ?_, fun h => hOpen (h.take _)⟩
      · rw [hArrival, hFetched.arrival, Stream.Arrival.after,
          List.drop_append,
          List.drop_of_length_le hFetched.most,
          List.nil_append]
      · rw [hContent, hFetched.content, List.drop_append,
          List.drop_of_length_le hFetched.most,
          List.nil_append]

end Copy

end Courier

------------------------------------------------------------
-- Whole Copies
------------------------------------------------------------

namespace Courier

namespace Copy

variable {total limit : Nat}
variable {r : Stream.Reader}
variable {w : Stream.Writer}

/- Every copy comes to its end after some rounds. -/
theorem rounds_through
    (total size limit : Nat)
    (r : Stream.Reader)
    (w : Stream.Writer) :
    Rounds total (max size 1) limit total 0 r w
      (through total size limit r w) :=
  rounds_pieces total limit total 0 r w (by omega)

/-
  How a copy ends and what it hands on do not depend on the
  buffer.
-/
theorem through_eq_verdict
    (total size limit : Nat)
    (r : Stream.Reader)
    (w : Stream.Writer) :
    (through total size limit r w).outcome =
        verdict total total (r.arrival limit) w ∧
      (through total size limit r w).writer.written =
        w.written ++ handedOn total (r.arrival limit) w :=
  (rounds_through total size limit r w).eq_verdict

/-
  A copy of a whole text hands on as much of it as the
  writer has room for.
-/
theorem written_through_ofBytes
    (size limit : Nat)
    (content : Bytes)
    (w : Stream.Writer) :
    (through content.length size limit (.ofBytes content)
        w).writer.written =
      w.written ++ w.accepted content := by
  rw [(through_eq_verdict _ _ _ _ _).2, handedOn,
    Stream.Reader.arrival_ofBytes, Nat.min_self]
  rfl

/- A copy that succeeds has written as much as it was to. -/
theorem written_through_of_ok
    {size n : Nat}
    (hOk : (through total size limit r w).outcome = .ok n) :
    ∃ bytes,
      (through total size limit r w).writer.written =
          w.written ++ bytes ∧
        bytes.length = total := by
  rcases through_eq_verdict total size limit r w with
    ⟨hOutcome, hWritten⟩
  rcases verdict_eq_ok_iff.mp (hOutcome.symm.trans hOk) with
    ⟨-, hEnough, hRoom, -⟩
  rw [(verdict_of_enough total hRoom hEnough).2] at hWritten
  exact ⟨_, hWritten, List.length_take_of_le hEnough⟩

/-
  A copy of bytes that all arrive in time takes exactly them
  and writes exactly them.
-/
theorem through_eq_ok
    (size : Nat)
    (hOpen : w.IsOpen)
    (hEnough : total ≤ (r.arrival limit).bytes.length) :
    ∃ waited r' w',
      through total size limit r w =
          ⟨.ok total, waited, r', w'⟩ ∧
        w'.IsOpen ∧
        w'.written =
          w.written ++ (r.arrival limit).bytes.take total ∧
        r'.arrival limit =
          { r.arrival limit with
            bytes := (r.arrival limit).bytes.drop total } ∧
        r'.content = r.content.drop total := by
  rcases through_eq_verdict total size limit r w with
    ⟨hOutcome, hWritten⟩
  rcases
    verdict_of_enough total
      (Stream.Writer.capacity_of_isOpen hOpen total)
      hEnough with
    ⟨hVerdict, hHanded⟩
  rw [hVerdict,
    Stream.Writer.closing_eq_ok_iff.mpr ⟨rfl, hOpen.flush⟩]
    at hOutcome
  rw [hHanded] at hWritten
  rcases
    (rounds_through total size limit r w).reader_of_ok
      hOutcome with
    ⟨hArrival, hContent, hStays⟩
  refine
    ⟨(through total size limit r w).waited, _, _, ?_,
      hStays hOpen, hWritten, hArrival, hContent⟩
  rw [← hOutcome]

/-
  A copy with too few bytes breaks off as they end, and has
  written them all.
-/
theorem through_eq_error
    (size : Nat)
    (hOpen : w.IsOpen)
    (hFew : (r.arrival limit).bytes.length < total) :
    (through total size limit r w).outcome =
        .error
          ((r.arrival limit).ending.fault
            (total - (r.arrival limit).bytes.length) total) ∧
      (through total size limit r w).writer.written =
        w.written ++ (r.arrival limit).bytes := by
  rcases through_eq_verdict total size limit r w with
    ⟨hOutcome, hWritten⟩
  rcases
    verdict_of_few total
      (Stream.Writer.capacity_of_isOpen hOpen _) hFew with
    ⟨hVerdict, hHanded⟩
  exact
    ⟨hOutcome.trans hVerdict,
      hWritten.trans (by rw [hHanded])⟩

end Copy

end Courier
