import Courier.Proofs.Stream.Arrival

/-
  What a connection delivers within a limit on all waits
  together, as a message with one limit sees it.

  How the bytes are cut into pieces, and where the waits
  are, makes no difference to a reading of an exact number
  of bytes: it takes that many bytes off the front of the
  delivery, or ends as the delivery does.

  Key definitions include:
    * `Stream.Reader.delivery`
    * `Stream.Took`

  Key theorems include:
    * `Stream.Reader.readExact_of_le`
    * `Stream.Reader.readExact_of_lt`
-/

------------------------------------------------------------
-- Deliveries
------------------------------------------------------------

namespace Courier

namespace Stream

namespace Reader

/-
  What arrives before the waits add up to more than the
  limit.
-/
def delivery
    (limit : Nat) : Reader → Arrival
  | [] => ⟨[], .closed⟩
  | .data bytes :: rest => .after bytes (delivery limit rest)
  | .delay ms :: rest =>
      if ms ≤ limit then
        delivery (limit - ms) rest
      else
        ⟨[], .late⟩
  | .stall :: _ => ⟨[], .late⟩
  | .fail e :: _ => ⟨[], .broken e⟩

/- A longer limit delivers what a shorter one does first. -/
theorem delivery_prefix
    {limit more : Nat}
    (r : Reader)
    (hMore : limit ≤ more) :
    (r.delivery limit).bytes <+: (r.delivery more).bytes := by
  induction r generalizing limit more with
  | nil => exact List.prefix_rfl
  | cons supply rest ih =>
      cases supply with
      | data bytes =>
          exact
            (List.prefix_append_right_inj bytes).mpr
              (ih hMore)
      | delay ms =>
          simp only [delivery]
          by_cases hTime : ms ≤ limit
          · rw [if_pos hTime, if_pos (by omega)]
            exact ih (by omega)
          · rw [if_neg hTime]
            exact List.nil_prefix
      | stall => exact List.prefix_rfl
      | fail e => exact List.prefix_rfl

end Reader

end Stream

end Courier

------------------------------------------------------------
-- Bytes Taken
------------------------------------------------------------

namespace Courier

namespace Stream

/-
  From one moment to a later one, both within the limit,
  exactly the given bytes were taken off a reader.
-/
structure Took
    (limit waited : Nat)
    (r : Reader)
    (front : Bytes)
    (waited' : Nat)
    (r' : Reader) : Prop where
  later : waited ≤ waited'
  inTime : waited' ≤ limit
  delivery :
    r.delivery (limit - waited) =
      .after front (r'.delivery (limit - waited'))
  content : r.content = front ++ r'.content

variable {limit waited : Nat}
variable {r : Reader}

variable {waited' : Nat}
variable {r' : Reader}
variable {front : Bytes}

/- Nothing is taken where nothing happens. -/
theorem took_nil
    (r : Reader)
    (hTime : waited ≤ limit) :
    Took limit waited r [] waited r :=
  ⟨Nat.le_refl waited, hTime, rfl, rfl⟩

/- Some bytes of a piece are taken. -/
theorem took_take
    {count : Nat}
    {chunk : Bytes}
    (rest : Reader)
    (hTime : waited ≤ limit) :
    Took limit waited (.data chunk :: rest)
      (chunk.take count) waited
      (.data (chunk.drop count) :: rest) := by
  refine ⟨Nat.le_refl waited, hTime, ?_, ?_⟩
  · simp only [Reader.delivery, Arrival.after,
      ← List.append_assoc, List.take_append_drop]
  · simp only [Reader.content, ← List.append_assoc,
      List.take_append_drop]

/- A whole piece is taken before what is behind it. -/
theorem Took.data
    (chunk : Bytes)
    (hTook : Took limit waited r front waited' r') :
    Took limit waited (.data chunk :: r) (chunk ++ front)
      waited' r' := by
  refine ⟨hTook.later, hTook.inTime, ?_, ?_⟩
  · rw [Reader.delivery, hTook.delivery]
    simp only [Arrival.after, List.append_assoc]
  · rw [Reader.content, hTook.content, List.append_assoc]

/- A wait passes before what is behind it is taken. -/
theorem Took.delay
    {ms : Nat}
    (hTook : Took limit (waited + ms) r front waited' r') :
    Took limit waited (.delay ms :: r) front waited' r' := by
  have hLater := hTook.later
  have hInTime := hTook.inTime
  have hDelivery := hTook.delivery
  refine ⟨by omega, hInTime, ?_, hTook.content⟩
  rw [Reader.delivery, if_pos (by omega), Nat.sub_sub]
  exact hDelivery

/- What is taken in two steps is taken. -/
theorem Took.trans
    {later : Nat}
    {r'' : Reader}
    {back : Bytes}
    (hFirst : Took limit waited r front waited' r')
    (hSecond : Took limit waited' r' back later r'') :
    Took limit waited r (front ++ back) later r'' := by
  refine
    ⟨Nat.le_trans hFirst.later hSecond.later,
      hSecond.inTime, ?_, ?_⟩
  · rw [hFirst.delivery, hSecond.delivery]
    simp only [Arrival.after, List.append_assoc]
  · rw [hFirst.content, hSecond.content, List.append_assoc]

/- What is taken after some time is taken later. -/
theorem Took.after
    {ms : Nat}
    (hTime : waited ≤ limit)
    (hTook : Took (limit - waited) 0 r front ms r') :
    Took limit waited r front (waited + ms) r' := by
  have hInTime := hTook.inTime
  refine ⟨by omega, by omega, ?_, hTook.content⟩
  rw [← Nat.sub_sub]
  exact hTook.delivery

/- What is still delivered after some bytes were taken. -/
theorem Took.rest
    (hTook : Took limit waited r front waited' r') :
    r'.delivery (limit - waited') =
      ⟨(r.delivery (limit - waited)).bytes.drop front.length,
        (r.delivery (limit - waited)).ending⟩ := by
  rw [hTook.delivery]
  simp only [Arrival.after, List.drop_left]

end Stream

end Courier

------------------------------------------------------------
-- Exact Readings
------------------------------------------------------------

namespace Courier

namespace Stream

namespace Reader

/-
  As many bytes as are delivered can be read, after some
  that were read before.
-/
theorem readExactFrom_of_le
    {count limit waited : Nat}
    {r : Reader}
    (bytes : Bytes)
    (hTime : waited ≤ limit)
    (hEnough :
      count ≤ (r.delivery (limit - waited)).bytes.length) :
    ∃ waited' r',
      r.readExactFrom count limit waited bytes =
          ⟨.done
              (bytes.reverse ++
                (r.delivery (limit - waited)).bytes.take count),
            waited', r'⟩ ∧
        Took limit waited r
          ((r.delivery (limit - waited)).bytes.take count)
          waited' r' := by
  induction r generalizing count waited bytes with
  | nil =>
      have hZero : count = 0 := by
        simpa [delivery] using hEnough
      subst hZero
      exact
        ⟨waited, [], by simp [readExactFrom],
          took_nil [] hTime⟩
  | cons supply rest ih =>
      by_cases hZero : count = 0
      · subst hZero
        exact
          ⟨waited, supply :: rest, by simp [readExactFrom],
            took_nil _ hTime⟩
      cases supply with
      | data chunk =>
          rw [readExactFrom, if_neg hZero]
          simp only [delivery, Arrival.after,
            List.length_append] at hEnough ⊢
          by_cases hChunk : chunk.length ≤ count
          · have hLeft :
                count - chunk.length ≤
                  (delivery (limit - waited) rest).bytes.length
                := by
              omega
            rcases ih (chunk.reverse ++ bytes) hTime hLeft with
              ⟨waited', r', hRead, hTook⟩
            rw [List.take_append,
              List.take_of_length_le hChunk]
            refine ⟨waited', r', ?_, hTook.data chunk⟩
            simp only [if_pos hChunk]
            rw [hRead]
            simp
          · have hInside : count ≤ chunk.length := by omega
            rw [List.take_append_of_le_length hInside]
            refine ⟨waited, _, ?_, took_take rest hTime⟩
            simp only [if_neg hChunk]
            simp
      | delay ms =>
          rw [readExactFrom, if_neg hZero]
          simp only [delivery] at hEnough ⊢
          by_cases hSoon : ms ≤ limit - waited
          · rw [if_pos hSoon, Nat.sub_sub] at hEnough ⊢
            rcases ih bytes (by omega) hEnough with
              ⟨waited', r', hRead, hTook⟩
            refine ⟨waited', r', ?_, hTook.delay⟩
            rw [if_pos (by omega)]
            exact hRead
          · rw [if_neg hSoon] at hEnough
            exact absurd (Nat.le_zero.mp hEnough) hZero
      | stall =>
          exact absurd (Nat.le_zero.mp hEnough) hZero
      | fail e =>
          exact absurd (Nat.le_zero.mp hEnough) hZero

/-
  Reading more than is delivered ends as the delivery does.
-/
theorem readExactFrom_of_lt
    {count limit waited : Nat}
    {r : Reader}
    (bytes : Bytes)
    (hTime : waited ≤ limit)
    (hShort :
      (r.delivery (limit - waited)).bytes.length < count) :
    (r.readExactFrom count limit waited bytes).outcome =
      (r.delivery (limit - waited)).ending.outcome := by
  have hSome : count ≠ 0 := by omega
  induction r generalizing count waited bytes with
  | nil =>
      rw [readExactFrom, if_neg hSome]
      rfl
  | cons supply rest ih =>
      cases supply with
      | data chunk =>
          rw [readExactFrom, if_neg hSome]
          simp only [delivery, Arrival.after,
            List.length_append] at hShort ⊢
          rw [if_pos (by omega)]
          exact ih _ hTime (by omega) (by omega)
      | delay ms =>
          rw [readExactFrom, if_neg hSome]
          simp only [delivery] at hShort ⊢
          by_cases hSoon : ms ≤ limit - waited
          · rw [if_pos hSoon, Nat.sub_sub] at hShort ⊢
            rw [if_pos (by omega)]
            exact ih bytes (by omega) hShort hSome
          · rw [if_neg hSoon, if_neg (by omega)]
            rfl
      | stall =>
          rw [readExactFrom, if_neg hSome]
          rfl
      | fail e =>
          rw [readExactFrom, if_neg hSome]
          rfl

variable {count limit : Nat}
variable {r : Reader}

/- As many bytes as are delivered can be read. -/
theorem readExact_of_le
    (hEnough : count ≤ (r.delivery limit).bytes.length) :
    ∃ waited r',
      r.readExact count limit =
          ⟨.done ((r.delivery limit).bytes.take count),
            waited, r'⟩ ∧
        Took limit 0 r ((r.delivery limit).bytes.take count)
          waited r' :=
  readExactFrom_of_le [] (Nat.zero_le limit) hEnough

/- Reading more than is delivered ends as the delivery does. -/
theorem readExact_of_lt
    (hShort : (r.delivery limit).bytes.length < count) :
    (r.readExact count limit).outcome =
      (r.delivery limit).ending.outcome :=
  readExactFrom_of_lt [] (Nat.zero_le limit) hShort

end Reader

end Stream

end Courier
