import Courier.Proofs.Stream.Copy

/-
  Copies are exact.

  A copy moves the bytes that were announced: no more, even
  if more arrive, and no fewer unless it says so.  What it
  does depends on the bytes that arrive in time, not on the
  pieces they come in, and its counter of 64 bits goes down
  to zero without ever wrapping around.  A copy whose buffer
  cannot be made panics instead.

  Key definitions include:
    * `Copy.Counted`
    * `Copy.Delivers`

  Key theorems include:
    * `Stream.Reader.arrival_paced`
    * `Copy.Rounds.taken`
    * `Copy.Rounds.counted`
    * `Copy.exact_eq_verdict`
    * `Copy.delivers_of_verdict`
    * `Copy.exact_delivers`
-/

------------------------------------------------------------
-- Pieces that Arrive in Time
------------------------------------------------------------

namespace Courier

namespace Stream

namespace Reader

/- Pieces that arrive after a pause each. -/
def paced
    (pieces : List (Nat × Bytes)) : Reader :=
  pieces.flatMap fun p => [.delay p.1, .data p.2]

/-
  If no pause is too long, the bytes of all pieces arrive,
  however they are cut.
-/
theorem arrival_paced
    {limit : Nat}
    {pieces : List (Nat × Bytes)}
    (next : Reader)
    (hPace : ∀ p ∈ pieces, p.1 ≤ limit ∧ p.2 ≠ []) :
    arrival limit (paced pieces ++ next) =
      .after (pieces.flatMap Prod.snd)
        (next.arrival limit) := by
  induction pieces with
  | nil => rfl
  | cons p pieces ih =>
      rcases p with ⟨pause, bytes⟩
      rcases hPace ⟨pause, bytes⟩ List.mem_cons_self with
        ⟨hPause, hSome⟩
      have hLater :=
        ih fun q hMem => hPace q (List.mem_cons_of_mem _ hMem)
      cases bytes with
      | nil => exact absurd rfl hSome
      | cons b bs =>
          unfold arrival paced at hLater ⊢
          simp only [List.flatMap_cons, List.cons_append,
            List.nil_append, arrivalFrom, Nat.zero_add,
            if_pos hPause, hLater, Arrival.after,
            List.append_assoc]

end Reader

end Stream

end Courier

------------------------------------------------------------
-- Chunks and Counts
------------------------------------------------------------

namespace Courier

namespace Copy

variable {size limit remaining waited : Nat}
variable {r : Stream.Reader}
variable {w : Stream.Writer}
variable {x : Result}

/-
  Each chunk that the writer takes during a copy has at
  least one byte and fits into the buffer.
-/
theorem Rounds.taken
    {total : Nat}
    (hRounds :
      Rounds total size limit remaining waited r w x) :
    ∃ new,
      x.writer.taken = new ++ w.taken ∧
        ∀ c ∈ new, 0 < c.length ∧ c.length ≤ size := by
  induction hRounds with
  | finish waited r w =>
      unfold Copy.finish Stream.Writer.flush
      cases w.flushOutcome with
      | done _ => exact ⟨[], rfl, by simp⟩
      | failed _ => exact ⟨[], rfl, by simp⟩
      | ended => exact ⟨[], rfl, by simp⟩
      | timedOut => exact ⟨[], rfl, by simp⟩
  | @ended _ _ _ w _ _ _ hCourse =>
      cases hCourse with
      | starved => exact ⟨[], rfl, by simp⟩
      | @refused _ _ piece hFetched _ =>
          rcases
            w.exists_chunks_take
              (piece.take (w.capacity piece.length)) with
            ⟨new, hTaken, hChunks⟩
          refine ⟨new, hTaken, fun c hMem => ?_⟩
          have hFits := hFetched.fits
          have hChunk := hChunks c hMem
          rw [List.length_take] at hChunk
          omega
  | @next _ _ _ _ _ w piece _ _ _ hFetched _ _ ih =>
      rcases ih with ⟨later, hLater, hLaterChunks⟩
      rcases w.exists_chunks_take piece with
        ⟨first, hFirst, hFirstChunks⟩
      refine
        ⟨later ++ first, by rw [hLater, hFirst,
          List.append_assoc], fun c hMem => ?_⟩
      have hFits := hFetched.fits
      rcases List.mem_append.mp hMem with hMem | hMem
      · exact hLaterChunks c hMem
      · have hChunk := hFirstChunks c hMem
        omega

/-
  A copy as a loop whose counter has 64 bits.  A round that
  goes on has written a piece which fits into the buffer and
  which the counter has room for.
-/
inductive Counted
    (total : UInt64)
    (size limit : Nat) :
    UInt64 → Nat → Stream.Reader → Stream.Writer → Result →
      Prop where
| finish
    (waited : Nat)
    (r : Stream.Reader)
    (w : Stream.Writer) :
    Counted total size limit 0 waited r w
      (finish total.toNat limit waited r w)
| ended
    {remaining : UInt64}
    {waited : Nat}
    {r : Stream.Reader}
    {w : Stream.Writer}
    {x : Result}
    (hLeft : 0 < remaining)
    (hEnded :
      round total.toNat size limit remaining.toNat waited r
        w = .ended x) :
    Counted total size limit remaining waited r w x
| next
    {remaining : UInt64}
    {waited waited' : Nat}
    {r r' : Stream.Reader}
    {w w' : Stream.Writer}
    {piece : Bytes}
    {x : Result}
    (hLeft : 0 < remaining)
    (hNext :
      round total.toNat size limit remaining.toNat waited r
        w = .next piece waited' r' w')
    (hSome : 0 < piece.length)
    (hFits : piece.length ≤ size)
    (hCount : UInt64.ofNat piece.length ≤ remaining)
    (hRest :
      Counted total size limit
        (remaining - UInt64.ofNat piece.length) waited' r' w'
        x) :
    Counted total size limit remaining waited r w x

/- A counter of 64 bits counts what remains. -/
theorem Rounds.counted
    {total : UInt64}
    (hRounds :
      Rounds total.toNat size limit remaining waited r w x)
    (counter : UInt64)
    (hCounter : counter.toNat = remaining) :
    Counted total size limit counter waited r w x := by
  induction hRounds generalizing counter with
  | finish waited r w =>
      have hZero : counter = 0 := UInt64.toNat_inj.mp hCounter
      exact hZero ▸ .finish waited r w
  | ended hLeft hEnded =>
      subst hCounter
      exact .ended (UInt64.lt_iff_toNat_lt.mpr hLeft) hEnded
  | @next _ _ _ _ _ _ piece _ hLeft hNext hFetched _ _ ih =>
      subst hCounter
      -- The piece fits into what remains, and that into 64 bits.
      have hPiece :
          (UInt64.ofNat piece.length).toNat = piece.length :=
        UInt64.toNat_ofNat_of_lt'
          (Nat.lt_of_le_of_lt hFetched.most counter.toNat_lt)
      have hCount : UInt64.ofNat piece.length ≤ counter :=
        UInt64.le_iff_toNat_le.mpr
          (Nat.le_trans (Nat.le_of_eq hPiece) hFetched.most)
      refine
        .next (UInt64.lt_iff_toNat_lt.mpr hLeft) hNext
          hFetched.some hFetched.fits hCount (ih _ ?_)
      rw [UInt64.toNat_sub_of_le _ _ hCount, hPiece]

end Copy

end Courier

------------------------------------------------------------
-- Exact Copies
------------------------------------------------------------

namespace Courier

namespace Copy

/- A copy through a buffer that can be is a copy through it. -/
theorem exact_of_le
    {size : Nat}
    (total limit : Nat)
    (r : Stream.Reader)
    (w : Stream.Writer)
    (hBuffer : size ≤ maxBuffer) :
    exact total size limit r w =
      (through total size limit r w).toRun :=
  if_neg (Nat.not_lt.mpr hBuffer)

/- It succeeds exactly if the copy through it does. -/
theorem toRun_outcome_eq_ok_iff
    {x : Result}
    {n : Nat} :
    x.toRun.outcome = .ok n ↔ x.outcome = .ok n := by
  unfold Result.toRun
  cases x.outcome with
  | ok count =>
      constructor <;> intro hOk <;> cases hOk <;> rfl
  | error fault =>
      constructor <;> intro hOk <;> cases hOk

/-
  How such a copy ends and what it hands on do not depend on
  the buffer.
-/
theorem exact_eq_verdict
    {size : Nat}
    (total limit : Nat)
    (r : Stream.Reader)
    (w : Stream.Writer)
    (hBuffer : size ≤ maxBuffer) :
    (exact total size limit r w).outcome =
        (verdict total total (r.arrival limit) w).mapError
          .broken ∧
      (exact total size limit r w).writer.written =
        w.written ++ handedOn total (r.arrival limit) w := by
  rcases through_eq_verdict total size limit r w with
    ⟨hOutcome, hWritten⟩
  rw [exact_of_le total limit r w hBuffer]
  exact ⟨congrArg (Except.mapError _) hOutcome, hWritten⟩

/-
  What becomes of a copy, by the bytes that arrive and by
  the room that the writer has.

  If enough of them arrive and the writer takes them, the
  copy succeeds.  If the reader ends early, the copy says by
  how much; if the reader fails, so does the copy; in both
  cases everything that arrived was written.  If the writer
  fails or stalls, it has taken the first of the bytes.
-/
structure Delivers
    (a : Stream.Arrival)
    (count : Nat)
    (w : Stream.Writer)
    (x : Run) : Prop where
  whole :
    count ≤ a.bytes.length →
    w.capacity count = count →
    w.flushOutcome = .done () →
      x.outcome = .ok count ∧
        x.writer.written = w.written ++ a.bytes.take count
  early :
    a.bytes.length < count →
    w.capacity a.bytes.length = a.bytes.length →
      let missing := count - a.bytes.length
      let shortfall :=
        s!"stream ended {missing} bytes short of {count}"
      x.writer.written = w.written ++ a.bytes ∧
        ∃ fault,
          x.outcome = .error (.broken fault) ∧
            fault.toIoError =
              match a.ending with
              | .closed =>
                  { kind := .unexpectedEof
                    message := shortfall }
              | .broken e => e
              | .late => .timedOut "read"
  refused :
    let due := min count a.bytes.length
    w.capacity due < due →
      x.outcome = .error (.broken w.fault) ∧
        x.writer.written =
          w.written ++ a.bytes.take (w.capacity due)
  unflushed :
    count ≤ a.bytes.length →
    w.capacity count = count →
      x.writer.written = w.written ++ a.bytes.take count ∧
        (w.flushOutcome = .timedOut →
          x.outcome = .error (.broken .flushTimedOut)) ∧
        ∀ e,
          w.flushOutcome = .failed e →
          x.outcome = .error (.broken (.writer e))
  front :
    ∃ taken,
      taken <+: a.bytes ∧
        x.writer.written = w.written ++ taken

/- A copy that ends as it should becomes of this. -/
theorem delivers_of_verdict
    {a : Stream.Arrival}
    {count : Nat}
    {w : Stream.Writer}
    {x : Run}
    (hOutcome :
      x.outcome = (verdict count count a w).mapError .broken)
    (hWritten :
      x.writer.written = w.written ++ handedOn count a w) :
    Delivers a count w x := by
  refine ⟨?_, ?_, ?_, ?_, ⟨_, List.take_prefix _ _, hWritten⟩⟩
  · intro hEnough hRoom hFlush
    rcases verdict_of_enough count hRoom hEnough with
      ⟨hVerdict, hHanded⟩
    rw [hVerdict, Stream.Writer.closing, hFlush] at hOutcome
    rw [hHanded] at hWritten
    exact ⟨hOutcome, hWritten⟩
  · intro hFew hRoom missing shortfall
    rcases verdict_of_few count hRoom hFew with
      ⟨hVerdict, hHanded⟩
    rw [hVerdict] at hOutcome
    rw [hHanded] at hWritten
    refine ⟨hWritten, _, hOutcome, ?_⟩
    cases a.ending with
    | closed => rfl
    | late => rfl
    | broken e => rfl
  · intro due hRefused
    refine ⟨hOutcome.trans ?_, hWritten⟩
    exact congrArg (Except.mapError _) (if_pos hRefused)
  · intro hEnough hRoom
    rcases verdict_of_enough count hRoom hEnough with
      ⟨hVerdict, hHanded⟩
    rw [hVerdict, Stream.Writer.closing] at hOutcome
    rw [hHanded] at hWritten
    refine ⟨hWritten, fun hFlush => ?_, fun e hFlush => ?_⟩
    · rw [hFlush] at hOutcome
      exact hOutcome
    · rw [hFlush] at hOutcome
      exact hOutcome

/-
  A copy delivers exactly the bytes that were announced, and
  panics before it reads if there can be no such buffer.

  What becomes of it depends on the bytes that arrive, and
  neither on their pieces nor on the buffer.  If it succeeds
  the reader keeps the rest.  Each chunk fits into the
  buffer, and the loop counts down to its end.
-/
theorem exact_delivers
    (total : UInt64)
    (size limit : Nat)
    (r : Stream.Reader)
    (w : Stream.Writer) :
    let a := r.arrival limit
    let count := total.toNat
    let x := exact count size limit r w
    (maxBuffer < size →
      x =
        { outcome := .error .panicked
          waited := 0
          reader := r
          writer := w }) ∧
    (size ≤ maxBuffer →
      Delivers a count w x ∧
      (∀ n,
        x.outcome = .ok n →
          x.reader.arrival limit =
              { a with bytes := a.bytes.drop count } ∧
            x.reader.content = r.content.drop count) ∧
      (∀ size' limit' r',
        size' ≤ maxBuffer →
        Stream.Reader.arrival limit' r' = a →
        (exact count size' limit' r' w).outcome =
            x.outcome ∧
          (exact count size' limit' r' w).writer.written =
            x.writer.written) ∧
      (∀ pieces next,
        (∀ p ∈ pieces, p.1 ≤ limit ∧ p.2 ≠ []) →
        r = Stream.Reader.paced pieces ++ next →
        a =
          .after (pieces.flatMap Prod.snd)
            (next.arrival limit)) ∧
      (∃ new,
        x.writer.sizes = w.sizes ++ new ∧
          ∀ n ∈ new, 0 < n ∧ n ≤ max size 1) ∧
      ∃ y,
        Counted total (max size 1) limit total 0 r w y ∧
          x = y.toRun) := by
  intro a count x
  refine ⟨fun hBuffer => if_pos hBuffer, fun hBuffer => ?_⟩
  have hRun : x = _ := exact_of_le count limit r w hBuffer
  have hRounds := rounds_through count size limit r w
  rcases exact_eq_verdict count limit r w hBuffer with
    ⟨hOutcome, hWritten⟩
  refine
    ⟨delivers_of_verdict hOutcome hWritten, ?_, ?_, ?_, ?_,
      ⟨_, hRounds.counted total rfl, hRun⟩⟩
  · intro n hOk
    rw [hRun, toRun_outcome_eq_ok_iff] at hOk
    rcases hRounds.reader_of_ok hOk with
      ⟨hArrival, hContent, -⟩
    rw [hRun]
    exact ⟨hArrival, hContent⟩
  · intro size' limit' r' hBuffer' hSame
    rcases exact_eq_verdict count limit' r' w hBuffer' with
      ⟨hOutcome', hWritten'⟩
    rw [hSame] at hOutcome' hWritten'
    exact
      ⟨hOutcome'.trans hOutcome.symm,
        hWritten'.trans hWritten.symm⟩
  · intro pieces next hPace hPaced
    rw [← Stream.Reader.arrival_paced next hPace, ← hPaced]
  · rcases hRounds.taken with ⟨new, hTaken, hChunks⟩
    refine ⟨new.reverse.map List.length, ?_, ?_⟩
    · rw [hRun, Result.toRun, Stream.Writer.sizes, hTaken,
        List.reverse_append, List.map_append]
      rfl
    · intro n hMem
      rcases List.mem_map.mp hMem with ⟨c, hChunk, rfl⟩
      exact hChunks c (List.mem_reverse.mp hChunk)

/- Six bytes in three pieces, and what comes behind them. -/
def bursts
    (next : Stream.Reader) : Stream.Reader :=
  Stream.Reader.paced [(2, [1, 2, 3]), (0, [4]), (3, [5, 6])] ++
    next

/- A writer for three bytes, which then never gets ready. -/
def cramped : Stream.Writer :=
  { Stream.Writer.endless with
    room := some 3
    full := .stall }

/-
  Four of the six bytes; nine bytes, of a reader that ends
  and of one that fails; four bytes to a writer for three,
  and to two that do not get rid of them; four bytes that
  arrive in one piece; and four bytes through a buffer that
  cannot be.
-/
theorem exact_delivers_bursts :
    let whole := exact 4 2 3 (bursts []) .endless
    let short := exact 9 0 3 (bursts []) .endless
    let failed :=
      exact 9 2 3 (bursts [.fail .writeZero]) .endless
    let full := exact 4 2 3 (bursts []) cramped
    let stuck :=
      exact 4 2 3 (bursts [])
        { Stream.Writer.endless with flushStalls := true }
    let lost :=
      exact 4 2 3 (bursts [])
        { Stream.Writer.endless with
          flushFault := some .writeZero }
    let other :=
      exact 4 100 0 (.ofBytes [1, 2, 3, 4, 5, 6]) .endless
    let huge := exact 4 (maxBuffer + 1) 3 (bursts []) .endless
    (whole.outcome = .ok 4 ∧
      whole.writer.written = [1, 2, 3, 4] ∧
      whole.reader.arrival 3 = ⟨[5, 6], .closed⟩ ∧
      whole.reader.content = [5, 6]) ∧
    (short.writer.written = [1, 2, 3, 4, 5, 6] ∧
      ∃ fault,
        short.outcome = .error (.broken fault) ∧
          fault.toIoError =
            { kind := .unexpectedEof
              message := "stream ended 3 bytes short of 9" }) ∧
    (failed.writer.written = [1, 2, 3, 4, 5, 6] ∧
      ∃ fault,
        failed.outcome = .error (.broken fault) ∧
          fault.toIoError = .writeZero) ∧
    (full.outcome = .error (.broken .writeTimedOut) ∧
      full.writer.written = [1, 2, 3]) ∧
    (stuck.outcome = .error (.broken .flushTimedOut) ∧
      stuck.writer.written = [1, 2, 3, 4]) ∧
    lost.outcome =
      .error (.broken (.writer .writeZero)) ∧
    (other.outcome = whole.outcome ∧
      other.writer.written = whole.writer.written) ∧
    huge =
      { outcome := .error .panicked
        waited := 0
        reader := bursts []
        writer := .endless } := by
  have hBursts :=
    (exact_delivers 4 2 3 (bursts []) .endless).2 (by decide)
  have hShort :=
    (exact_delivers 9 0 3 (bursts []) .endless).2 (by decide)
  have hFailed :=
    (exact_delivers 9 2 3 (bursts [.fail .writeZero])
      .endless).2 (by decide)
  have hFull :=
    (exact_delivers 4 2 3 (bursts []) cramped).2 (by decide)
  have hStuck :=
    (exact_delivers 4 2 3 (bursts [])
      { Stream.Writer.endless with flushStalls := true }).2
      (by decide)
  have hLost :=
    (exact_delivers 4 2 3 (bursts [])
      { Stream.Writer.endless with
        flushFault := some .writeZero }).2 (by decide)
  have hWhole := hBursts.1.whole (by decide) rfl rfl
  have hUnflushed := hStuck.1.unflushed (by decide) rfl
  refine
    ⟨⟨hWhole.1, hWhole.2, hBursts.2.1 4 hWhole.1⟩,
      hShort.1.early (by decide) rfl,
      hFailed.1.early (by decide) rfl,
      hFull.1.refused (by decide),
      ⟨hUnflushed.2.1 rfl, hUnflushed.1⟩,
      (hLost.1.unflushed (by decide) rfl).2.2 _ rfl,
      hBursts.2.2.1 100 0 _ (by decide) rfl, ?_⟩
  exact
    (exact_delivers 4 (maxBuffer + 1) 3 (bursts [])
      .endless).1 (by decide)

/-
  A copy may fail although its bytes arrive and its writer
  takes everything: there is no buffer of that size.
-/
theorem not_forall_exact :
    ¬ ∀ (total : UInt64)
        (size limit : Nat)
        (r : Stream.Reader)
        (w : Stream.Writer),
      size < UInt64.size →
      total.toNat ≤ (r.arrival limit).bytes.length →
      w.IsOpen →
      (exact total.toNat size limit r w).outcome =
        .ok total.toNat := by
  intro hAll
  have hHuge :=
    hAll 3 (maxBuffer + 1) 1000 (.ofBytes [97, 98, 99])
      .endless (by decide) (by decide)
      Stream.Writer.isOpen_endless
  cases hHuge

end Copy

end Courier
