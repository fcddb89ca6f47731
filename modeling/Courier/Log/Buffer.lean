import Courier.Log.Record

/-
  The most recent records of a log.

  A buffer has room for a fixed number of records, at least
  one.  A record that finds no room takes that of the oldest
  one.

  Key definitions include:
    * `newest`
    * `LogBuffer`
    * `LogBuffer.ofCapacity`
    * `LogBuffer.push`
    * `LogBuffer.snapshot`

  Key theorems include:
    * `length_newest`
    * `LogBuffer.capacity_push`
-/

------------------------------------------------------------
-- The End of a List
------------------------------------------------------------

namespace Courier

/- The last items of a list, in their order. -/
def newest
    {α : Type}
    (count : Nat)
    (items : List α) : List α :=
  items.drop (items.length - count)

/- There are as many as were asked for, if there are any. -/
theorem length_newest
    {α : Type}
    (count : Nat)
    (items : List α) :
    (newest count items).length = min count items.length := by
  simp only [newest, List.length_drop]
  omega

end Courier

------------------------------------------------------------
-- Buffers
------------------------------------------------------------

namespace Courier

/- Records, the oldest first, and how many there may be. -/
structure LogBuffer where
  capacity : Nat
  records : List LogRecord
deriving DecidableEq, Repr

namespace LogBuffer

/- An empty buffer, with room for one record at least. -/
def ofCapacity
    (capacity : Nat) : LogBuffer :=
  { capacity := max capacity 1
    records := [] }

/- Add a record, and drop the oldest one for want of room. -/
def push
    (b : LogBuffer)
    (r : LogRecord) : LogBuffer :=
  if b.capacity ≤ b.records.length then
    { b with records := b.records.tail ++ [r] }
  else
    { b with records := b.records ++ [r] }

/- Add records in their order. -/
def pushAll
    (b : LogBuffer)
    (rs : List LogRecord) : LogBuffer :=
  rs.foldl push b

/- The newest records, or all if no limit is given. -/
def snapshot
    (b : LogBuffer)
    (limit : Option Nat) : List LogRecord :=
  match limit with
  | some count => newest count b.records
  | none => b.records

/- The number of records. -/
def size
    (b : LogBuffer) : Nat :=
  b.records.length

/- A short text about the buffer. -/
def describe
    (b : LogBuffer) : String :=
  "LogBuffer \x7b capacity: " ++ toString b.capacity ++ " \x7d"

/- Room is neither made nor lost. -/
theorem capacity_push
    (b : LogBuffer)
    (r : LogRecord) :
    (b.push r).capacity = b.capacity := by
  unfold push
  split
  · rfl
  · rfl

end LogBuffer

end Courier
