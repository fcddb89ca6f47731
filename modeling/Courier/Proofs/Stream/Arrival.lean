import Courier.Stream.Reader

/-
  What arrives in time on a connection.

  How data is cut into pieces and how often it pauses makes
  no difference, as long as no pause between two pieces is
  longer than the limit.

  Key definitions include:
    * `Stream.Ending`
    * `Stream.Arrival`
    * `Stream.Reader.arrivalFrom`
    * `Stream.Reader.arrival`

  Key theorems include:
    * `Stream.Reader.readFrom_nil`
    * `Stream.Reader.readFrom_cons`
-/

------------------------------------------------------------
-- Arrivals
------------------------------------------------------------

namespace Courier

namespace Stream

/- What comes after the last byte that arrives in time. -/
inductive Ending where
| closed : Ending
| late : Ending
| broken : IoError → Ending
deriving DecidableEq, Repr

/- The outcome of reading when nothing is left. -/
def Ending.outcome : Ending → Outcome Bytes
  | .closed => .ended
  | .late => .timedOut
  | .broken e => .failed e

/- The bytes that arrive in time, and what ends them. -/
structure Arrival where
  bytes : Bytes
  ending : Ending
deriving DecidableEq, Repr

/- What arrives after some bytes. -/
def Arrival.after
    (bytes : Bytes)
    (a : Arrival) : Arrival :=
  { a with bytes := bytes ++ a.bytes }

namespace Reader

/-
  What arrives if no pause may be longer than the limit and
  the present one has lasted for some time already.
-/
def arrivalFrom
    (limit waited : Nat) : Reader → Arrival
  | [] => ⟨[], .closed⟩
  | .data [] :: rest => arrivalFrom limit waited rest
  | .data (b :: bs) :: rest =>
      .after (b :: bs) (arrivalFrom limit 0 rest)
  | .delay ms :: rest =>
      if waited + ms ≤ limit then
        arrivalFrom limit (waited + ms) rest
      else
        ⟨[], .late⟩
  | .stall :: _ => ⟨[], .late⟩
  | .fail e :: _ => ⟨[], .broken e⟩

/- What arrives if no pause may be longer than the limit. -/
def arrival
    (limit : Nat)
    (r : Reader) : Arrival :=
  r.arrivalFrom limit 0

end Reader

end Stream

end Courier

------------------------------------------------------------
-- Single Readings
------------------------------------------------------------

namespace Courier

namespace Stream

namespace Reader

/- Data that is there has arrived. -/
theorem arrival_data
    (limit : Nat)
    (bytes : Bytes)
    (rest : Reader) :
    arrival limit (.data bytes :: rest) =
      .after bytes (rest.arrival limit) := by
  unfold arrival
  cases bytes with
  | nil =>
      rw [arrivalFrom]
      rfl
  | cons b bs => rw [arrivalFrom]

/- If nothing arrives, reading ends as the arrival does. -/
theorem readFrom_nil
    {limit waited : Nat}
    {r : Reader}
    (want : Nat)
    (hNone : (r.arrivalFrom limit waited).bytes = []) :
    (r.readFrom want limit waited).outcome =
      (r.arrivalFrom limit waited).ending.outcome := by
  fun_induction arrivalFrom limit waited r with
  | case1 => rfl
  | case2 waited rest ih =>
      rw [readFrom]
      exact ih hNone
  | case3 waited b bs rest ih => cases hNone
  | case4 waited ms rest hTime ih =>
      rw [readFrom, if_pos hTime]
      exact ih hNone
  | case5 waited ms rest hTime =>
      rw [readFrom, if_neg hTime]
      rfl
  | case6 => rfl
  | case7 => rfl

/-
  If something arrives, reading gives some of it and leaves
  the rest.
-/
theorem readFrom_cons
    {limit waited want : Nat}
    {r : Reader}
    (hWant : 0 < want)
    (hSome : (r.arrivalFrom limit waited).bytes ≠ []) :
    ∃ b bs,
      (r.readFrom want limit waited).outcome =
          .done (b :: bs) ∧
        (b :: bs).length ≤ want ∧
        r.arrivalFrom limit waited =
          .after (b :: bs)
            ((r.readFrom want limit waited).reader.arrival
              limit) ∧
        r.content =
          b :: bs ++
            (r.readFrom want limit waited).reader.content := by
  fun_induction arrivalFrom limit waited r with
  | case1 => exact absurd rfl hSome
  | case2 waited rest ih =>
      rw [readFrom]
      exact ih hSome
  | case3 waited b bs rest ih =>
      obtain ⟨n, rfl⟩ : ∃ n, want = n + 1 :=
        ⟨want - 1, by omega⟩
      refine ⟨b, bs.take n, rfl, ?_, ?_, ?_⟩
      · simp only [List.length_cons, List.length_take]
        omega
      · simp only [readFrom, List.drop_succ_cons]
        rw [arrival_data, arrival]
        simp only [Arrival.after, ← List.append_assoc,
          List.cons_append, List.take_append_drop]
      · simp only [readFrom, List.drop_succ_cons, content,
          ← List.append_assoc, List.cons_append,
          List.take_append_drop]
  | case4 waited ms rest hTime ih =>
      rw [readFrom, if_pos hTime]
      exact ih hSome
  | case5 waited ms rest hTime => exact absurd rfl hSome
  | case6 => exact absurd rfl hSome
  | case7 => exact absurd rfl hSome

/- What arrives in time comes first in all that arrives. -/
theorem arrivalFrom_prefix
    (limit waited : Nat)
    (r : Reader) :
    (r.arrivalFrom limit waited).bytes <+: r.content := by
  fun_induction arrivalFrom limit waited r with
  | case1 => exact List.nil_prefix
  | case2 waited rest ih => exact ih
  | case3 waited b bs rest ih =>
      exact (List.prefix_append_right_inj (b :: bs)).mpr ih
  | case4 waited ms rest hTime ih => exact ih
  | case5 waited ms rest hTime => exact List.nil_prefix
  | case6 => exact List.nil_prefix
  | case7 => exact List.nil_prefix

end Reader

end Stream

end Courier

------------------------------------------------------------
-- Data That Is There Already
------------------------------------------------------------

namespace Courier

namespace Stream

namespace Reader

/- All bytes of a byte string arrive. -/
theorem arrival_ofBytes
    (limit : Nat)
    (bytes : Bytes) :
    (ofBytes bytes).arrival limit = ⟨bytes, .closed⟩ := by
  rw [ofBytes, arrival_data]
  simp [Arrival.after, arrival, arrivalFrom]

end Reader

end Stream

end Courier
