import Courier.Stream.Reader

/-
  The writing side of a connection: how much the other side
  takes, and what it has taken.

  A writer takes at most `chunk` bytes at once and at most
  `room` bytes in all.  Once there is no room left it fails,
  takes nothing, or never gets ready.  When it is to get rid
  of what it took, it does so, fails, or never gets ready.

  Key definitions include:
    * `Stream.Full`
    * `Stream.Writer`
    * `Stream.Writer.write`
    * `Stream.Writer.flushOutcome`
    * `Stream.Writer.flush`
    * `Stream.Writer.written`
-/

------------------------------------------------------------
-- Writers
------------------------------------------------------------

namespace Courier

namespace Stream

/- What a writer without room does. -/
inductive Full where
| fail : IoError → Full
| zero : Full
| stall : Full
deriving DecidableEq, Repr

/-
  A writer.  A bound that is absent never applies.  The
  chunks that were taken are reversed.  A flush fails if
  there is a fault for it, and else may stall.
-/
structure Writer where
  chunk : Option Nat
  room : Option Nat
  full : Full
  flushStalls : Bool
  flushFault : Option IoError
  taken : List Bytes
deriving DecidableEq, Repr

namespace Writer

/- A writer that takes everything. -/
def endless : Writer :=
  { chunk := none
    room := none
    full := .zero
    flushStalls := false
    flushFault := none
    taken := [] }

/- The bytes that were taken. -/
def written
    (w : Writer) : Bytes :=
  w.taken.reverse.flatten

/- The sizes of the chunks that were taken. -/
def sizes
    (w : Writer) : List Nat :=
  w.taken.reverse.map List.length

end Writer

end Stream

end Courier

------------------------------------------------------------
-- Writing
------------------------------------------------------------

namespace Courier

namespace Stream

/- The end of a writing step. -/
structure WriteResult where
  outcome : Outcome Unit
  waited : Nat
  writer : Writer
deriving DecidableEq, Repr

namespace Writer

/-
  Put the chunks of some bytes in front of the chunks that
  were taken before.  Chunks have `size + 1` bytes.
-/
def chunksOnto
    (taken : List Bytes)
    (size : Nat)
    (bytes : Bytes) : List Bytes :=
  if bytes.isEmpty then
    taken
  else
    chunksOnto (bytes.take (size + 1) :: taken) size
      (bytes.drop (size + 1))
  termination_by bytes.length
  decreasing_by
    cases bytes with
    | nil => simp_all
    | cons b bs =>
        simp only [List.length_drop, List.length_cons]
        omega

/- Take some bytes, in chunks. -/
def take
    (w : Writer)
    (bytes : Bytes) : Writer :=
  { w with
    room := w.room.map (· - bytes.length)
    taken :=
      match w.chunk with
      | some size => chunksOnto w.taken (size - 1) bytes
      | none =>
          if bytes.isEmpty then w.taken
          else bytes :: w.taken }

/- The number of bytes that the writer will still take. -/
def capacity
    (w : Writer)
    (wanted : Nat) : Nat :=
  if w.chunk = some 0 then 0
  else
    match w.room with
    | some room => min room wanted
    | none => wanted

/- Write all bytes, within the limit. -/
def write
    (w : Writer)
    (limit : Nat)
    (bytes : Bytes) : WriteResult :=
  let count := w.capacity bytes.length
  if count = bytes.length then
    ⟨.done (), 0, w.take bytes⟩
  else
    let w' := w.take (bytes.take count)
    if w.chunk = some 0 then
      ⟨.failed .writeZero, 0, w'⟩
    else
      match w.full with
      | .fail e => ⟨.failed e, 0, w'⟩
      | .zero => ⟨.failed .writeZero, 0, w'⟩
      | .stall => ⟨.timedOut, limit, w'⟩

/- How it ends to wait until the bytes are on their way. -/
def flushOutcome
    (w : Writer) : Outcome Unit :=
  match w.flushFault with
  | some e => .failed e
  | none => if w.flushStalls then .timedOut else .done ()

/- Wait until the bytes are on their way. -/
def flush
    (w : Writer)
    (limit : Nat) : WriteResult :=
  match w.flushOutcome with
  | .done () => ⟨.done (), 0, w⟩
  | .failed e => ⟨.failed e, 0, w⟩
  | .ended | .timedOut => ⟨.timedOut, limit, w⟩

end Writer

end Stream

end Courier
