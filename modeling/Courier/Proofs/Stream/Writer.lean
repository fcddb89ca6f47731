import Courier.Stream.Writer

/-
  What writers take.

  A writer takes the bytes that it has room for, whatever
  pieces they come in.  An open one takes everything in
  time.

  Key definitions include:
    * `Stream.Writer.IsOpen`
    * `Stream.Writer.refusal`
    * `Stream.Writer.accepted`
    * `Stream.Writer.IsAfter`

  Key theorems include:
    * `Stream.Writer.write_of_isOpen`
    * `Stream.Writer.flush_of_isOpen`
    * `Stream.Writer.capacity_take`
    * `Stream.Writer.write_of_capacity`
    * `Stream.Writer.write_of_capacity_lt`
    * `Stream.Writer.exists_chunks_take`
    * `Stream.Writer.IsAfter.accepted_append`
-/

------------------------------------------------------------
-- Open Writers
------------------------------------------------------------

namespace Courier

namespace Stream

namespace Writer

/- The writer takes all that it is given, without a wait. -/
structure IsOpen
    (w : Writer) : Prop where
  chunk : w.chunk ≠ some 0
  room : w.room = none
  flush : w.flushOutcome = .done ()

/- A writer that takes everything is open. -/
theorem isOpen_endless :
    endless.IsOpen :=
  ⟨by decide, rfl, rfl⟩

/- Chunks make up the bytes that they were cut from. -/
theorem flatten_chunksOnto
    (taken : List Bytes)
    (size : Nat)
    (bytes : Bytes) :
    (chunksOnto taken size bytes).reverse.flatten =
      taken.reverse.flatten ++ bytes := by
  fun_induction chunksOnto taken size bytes with
  | case1 taken bytes hEmpty =>
      rw [List.isEmpty_iff] at hEmpty
      simp [hEmpty]
  | case2 taken bytes hSome ih =>
      rw [ih]
      simp

/- Taking bytes puts them behind those taken before. -/
theorem written_take
    (w : Writer)
    (bytes : Bytes) :
    (w.take bytes).written = w.written ++ bytes := by
  unfold written take
  cases hChunk : w.chunk with
  | some size => exact flatten_chunksOnto w.taken _ bytes
  | none =>
      cases bytes with
      | nil => simp
      | cons b bs => simp

/- An open writer stays open. -/
theorem IsOpen.take
    {w : Writer}
    (hOpen : w.IsOpen)
    (bytes : Bytes) :
    (w.take bytes).IsOpen :=
  ⟨hOpen.chunk, by simp [Writer.take, hOpen.room],
    hOpen.flush⟩

/- An open writer has room for everything. -/
theorem capacity_of_isOpen
    {w : Writer}
    (hOpen : w.IsOpen)
    (wanted : Nat) :
    w.capacity wanted = wanted := by
  rw [capacity, if_neg hOpen.chunk, hOpen.room]

/- What a writer has room for, it takes at once. -/
theorem write_of_capacity
    {w : Writer}
    (limit : Nat)
    {bytes : Bytes}
    (hRoom : w.capacity bytes.length = bytes.length) :
    w.write limit bytes = ⟨.done (), 0, w.take bytes⟩ := by
  simp only [write, hRoom, if_true]

/- An open writer takes all bytes at once. -/
theorem write_of_isOpen
    {w : Writer}
    (hOpen : w.IsOpen)
    (limit : Nat)
    (bytes : Bytes) :
    w.write limit bytes = ⟨.done (), 0, w.take bytes⟩ :=
  write_of_capacity limit (capacity_of_isOpen hOpen _)

/- An open writer gets rid of what it took. -/
theorem flush_of_isOpen
    {w : Writer}
    (hOpen : w.IsOpen)
    (limit : Nat) :
    w.flush limit = ⟨.done (), 0, w⟩ := by
  simp only [flush, hOpen.flush]

end Writer

end Stream

end Courier

------------------------------------------------------------
-- Room
------------------------------------------------------------

namespace Courier

namespace Stream

namespace Writer

variable {w : Writer}
variable {bytes : Bytes}

/- What a writer does when it has no room for a byte. -/
def refusal
    (w : Writer) : Outcome Unit :=
  if w.chunk = some 0 then
    .failed .writeZero
  else
    match w.full with
    | .fail e => .failed e
    | .zero => .failed .writeZero
    | .stall => .timedOut

/- A refusal is no success. -/
theorem refusal_ne_done
    (w : Writer) :
    w.refusal ≠ .done () := by
  unfold refusal
  split
  · exact nofun
  · split
    · exact nofun
    · exact nofun
    · exact nofun

/- A writer has no more room than is wanted. -/
theorem capacity_le
    (w : Writer)
    (wanted : Nat) :
    w.capacity wanted ≤ wanted := by
  unfold capacity
  split
  · exact Nat.zero_le wanted
  · split
    · exact Nat.min_le_right _ _
    · exact Nat.le_refl wanted

/- There is no less room when more is wanted. -/
theorem capacity_mono
    (w : Writer)
    {some more : Nat}
    (hMore : some ≤ more) :
    w.capacity some ≤ w.capacity more := by
  unfold capacity
  split
  · exact Nat.le_refl 0
  · split
    · omega
    · exact hMore

/- If there is no room for some bytes, more do not help. -/
theorem capacity_of_lt
    {some more : Nat}
    (hRefused : w.capacity some < some)
    (hMore : some ≤ more) :
    w.capacity more = w.capacity some := by
  unfold capacity at hRefused ⊢
  split at hRefused
  · next hChunk => simp [hChunk]
  · next hChunk =>
      rw [if_neg hChunk, if_neg hChunk]
      split at hRefused
      · next room hRoom => omega
      · omega

/- If there is room for some bytes, there is for fewer. -/
theorem capacity_of_le
    {some more : Nat}
    (hFewer : some ≤ more)
    (hRoom : w.capacity more = more) :
    w.capacity some = some := by
  apply Nat.le_antisymm (w.capacity_le some)
  apply Nat.le_of_not_lt
  intro hRefused
  rw [capacity_of_lt hRefused hFewer] at hRoom
  omega

/- Bytes that are taken use up the room for them. -/
theorem capacity_take
    (w : Writer)
    (bytes : Bytes)
    (more : Nat) :
    (w.take bytes).capacity more =
      w.capacity (bytes.length + more) - bytes.length := by
  have hSame : (w.take bytes).chunk = w.chunk := rfl
  have hLeft :
      (w.take bytes).room =
        w.room.map (· - bytes.length) := rfl
  unfold capacity
  simp only [hSame, hLeft]
  by_cases hChunk : w.chunk = some 0
  · simp only [if_pos hChunk, Nat.zero_sub]
  · simp only [if_neg hChunk]
    cases w.room with
    | none =>
        simp only [Option.map_none]
        omega
    | some room =>
        simp only [Option.map_some]
        omega

/- A writer without enough room takes what it has room for. -/
theorem write_of_capacity_lt
    (limit : Nat)
    (hRefused : w.capacity bytes.length < bytes.length) :
    ∃ waited,
      w.write limit bytes =
        ⟨w.refusal, waited,
          w.take (bytes.take (w.capacity bytes.length))⟩ := by
  unfold write refusal
  rw [if_neg (Nat.ne_of_lt hRefused)]
  by_cases hChunk : w.chunk = some 0
  · simp only [if_pos hChunk]
    exact ⟨0, rfl⟩
  · simp only [if_neg hChunk]
    cases w.full with
    | fail e => exact ⟨0, rfl⟩
    | zero => exact ⟨0, rfl⟩
    | stall => exact ⟨limit, rfl⟩

/- Chunks are not empty and not longer than the bytes. -/
theorem exists_chunks
    (taken : List Bytes)
    (size : Nat)
    (bytes : Bytes) :
    ∃ new,
      chunksOnto taken size bytes = new ++ taken ∧
        ∀ c ∈ new, 0 < c.length ∧ c.length ≤ bytes.length := by
  fun_induction chunksOnto taken size bytes with
  | case1 taken bytes hEmpty => exact ⟨[], rfl, by simp⟩
  | case2 taken bytes hSome ih =>
      rcases ih with ⟨new, hNew, hLengths⟩
      have hPositive : 0 < bytes.length := by
        simpa [List.length_pos_iff] using hSome
      refine
        ⟨new ++ [bytes.take (size + 1)], by simp [hNew], ?_⟩
      intro c hMem
      rcases List.mem_append.mp hMem with hLater | hFirst
      · have hBounds := hLengths c hLater
        rw [List.length_drop] at hBounds
        omega
      · rw [List.mem_singleton.mp hFirst, List.length_take]
        omega

/- Taking bytes adds such chunks only. -/
theorem exists_chunks_take
    (w : Writer)
    (bytes : Bytes) :
    ∃ new,
      (w.take bytes).taken = new ++ w.taken ∧
        ∀ c ∈ new, 0 < c.length ∧ c.length ≤ bytes.length := by
  unfold take
  cases w.chunk with
  | some size => exact exists_chunks w.taken (size - 1) bytes
  | none =>
      cases bytes with
      | nil => exact ⟨[], rfl, by simp⟩
      | cons b bs => exact ⟨[b :: bs], rfl, by simp⟩

end Writer

end Stream

end Courier

------------------------------------------------------------
-- What Gets Through
------------------------------------------------------------

namespace Courier

namespace Stream

namespace Writer

/- As much of some bytes as a writer has room for. -/
def accepted
    (w : Writer)
    (bytes : Bytes) : Bytes :=
  bytes.take (w.capacity bytes.length)

/-
  A writer after it took some bytes: it has room for as much
  less, and is otherwise as it was.
-/
structure IsAfter
    (w : Writer)
    (bytes : Bytes)
    (w' : Writer) : Prop where
  written : w'.written = w.written ++ bytes
  capacity :
    ∀ more,
      w'.capacity more =
        w.capacity (bytes.length + more) - bytes.length
  flush : w'.flushOutcome = w.flushOutcome

variable {w w' w'' : Writer}
variable {bytes more : Bytes}

/- What gets through is the beginning. -/
theorem accepted_isPrefix
    (w : Writer)
    (bytes : Bytes) :
    w.accepted bytes <+: bytes :=
  List.take_prefix _ _

/- All bytes get through if there is room for them. -/
theorem accepted_of_capacity
    (hRoom : w.capacity bytes.length = bytes.length) :
    w.accepted bytes = bytes := by
  rw [accepted, hRoom, List.take_length]

/- All bytes get through to an open writer. -/
theorem accepted_of_isOpen
    (hOpen : w.IsOpen)
    (bytes : Bytes) :
    w.accepted bytes = bytes :=
  accepted_of_capacity (capacity_of_isOpen hOpen _)

/- What is behind refused bytes makes no difference. -/
theorem accepted_append_of_lt
    (hRefused : w.capacity bytes.length < bytes.length)
    (more : Bytes) :
    w.accepted (bytes ++ more) = w.accepted bytes := by
  have hSame :=
    capacity_of_lt hRefused
      (Nat.le_add_right bytes.length more.length)
  rw [accepted, accepted, List.length_append, hSame]
  exact List.take_append_of_le_length (Nat.le_of_lt hRefused)

/- Bytes that are taken leave a writer after them. -/
theorem isAfter_take
    (w : Writer)
    (bytes : Bytes) :
    w.IsAfter bytes (w.take bytes) :=
  ⟨w.written_take bytes, w.capacity_take bytes, rfl⟩

/- A writer is after nothing from the start. -/
theorem isAfter_nil
    (w : Writer) :
    w.IsAfter [] w := by
  refine ⟨(List.append_nil _).symm, ?_, rfl⟩
  intro more
  rw [List.length_nil, Nat.zero_add, Nat.sub_zero]

/- One can come after another. -/
theorem IsAfter.trans
    (hFirst : w.IsAfter bytes w')
    (hSecond : w'.IsAfter more w'') :
    w.IsAfter (bytes ++ more) w'' := by
  refine ⟨?_, ?_, hSecond.flush.trans hFirst.flush⟩
  · rw [hSecond.written, hFirst.written, List.append_assoc]
  · intro further
    rw [hSecond.capacity, hFirst.capacity, List.length_append,
      ← Nat.add_assoc, Nat.sub_sub]

/-
  When bytes were taken, the rest gets through as far as it
  does behind them.
-/
theorem IsAfter.accepted_append
    (hAfter : w.IsAfter bytes w')
    (hRoom : w.capacity bytes.length = bytes.length)
    (more : Bytes) :
    w.accepted (bytes ++ more) =
      bytes ++ w'.accepted more := by
  have hMore :=
    w.capacity_mono
      (Nat.le_add_right bytes.length more.length)
  rw [hRoom] at hMore
  rw [accepted, accepted, hAfter.capacity, List.length_append,
    List.take_append, List.take_of_length_le hMore]

/- There is room for all if there is room for each. -/
theorem IsAfter.capacity_append
    (hAfter : w.IsAfter bytes w')
    (hRoom : w.capacity bytes.length = bytes.length) :
    w.capacity (bytes ++ more).length =
        (bytes ++ more).length ↔
      w'.capacity more.length = more.length := by
  have hMore :=
    w.capacity_mono
      (Nat.le_add_right bytes.length more.length)
  rw [hAfter.capacity, List.length_append]
  omega

end Writer

end Stream

end Courier
