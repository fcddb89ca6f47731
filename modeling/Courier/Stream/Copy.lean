import Courier.Stream.Writer

/-
  Copying a given number of bytes from a reader to a writer.

  Each piece has at most the size of the buffer.  The limit
  holds for each step by itself.  The buffer is made before
  anything else.  No buffer has more bytes than a signed
  word can count: a copy that asks for more panics.

  Key definitions include:
    * `Copy.Fault`
    * `Copy.Result`
    * `Copy.through`
    * `Copy.Stop`
    * `Copy.Run`
    * `Copy.exact`
-/

------------------------------------------------------------
-- Faults
------------------------------------------------------------

namespace Courier

namespace Copy

/- Why a copy broke off. -/
inductive Fault where
| readTimedOut : Fault
| writeTimedOut : Fault
| flushTimedOut : Fault
| short : (missing total : Nat) → Fault
| reader : IoError → Fault
| writer : IoError → Fault
deriving DecidableEq, Repr

/- The failure that a fault is reported as. -/
def Fault.toIoError : Fault → IoError
  | .readTimedOut => .timedOut "read"
  | .writeTimedOut => .timedOut "write"
  | .flushTimedOut => .timedOut "flush"
  | .short missing total =>
      { kind := .unexpectedEof
        message :=
          s!"stream ended {missing} bytes short of {total}" }
  | .reader e => e
  | .writer e => e

/- The end of a copy. -/
structure Result where
  outcome : Except Fault Nat
  waited : Nat
  reader : Stream.Reader
  writer : Stream.Writer

end Copy

end Courier

------------------------------------------------------------
-- Copying
------------------------------------------------------------

namespace Courier

namespace Copy

/- Flush after the last piece. -/
def finish
    (total limit waited : Nat)
    (r : Stream.Reader)
    (w : Stream.Writer) : Result :=
  let flushed := w.flush limit
  match flushed.outcome with
  | .done () => ⟨.ok total, waited, r, flushed.writer⟩
  | .failed e =>
      ⟨.error (.writer e), waited, r, flushed.writer⟩
  | .ended | .timedOut =>
      ⟨.error .flushTimedOut, waited + flushed.waited, r,
        flushed.writer⟩

/- Copy what remains, piece by piece. -/
def pieces
    (total size limit remaining waited : Nat)
    (r : Stream.Reader)
    (w : Stream.Writer) : Result :=
  if remaining = 0 then
    finish total limit waited r w
  else
    let step := r.read (min remaining size) limit
    match step.outcome with
    | .timedOut =>
        ⟨.error .readTimedOut, waited + step.waited,
          step.reader, w⟩
    | .failed e =>
        ⟨.error (.reader e), waited + step.waited,
          step.reader, w⟩
    | .ended | .done [] =>
        ⟨.error (.short remaining total),
          waited + step.waited, step.reader, w⟩
    | .done (b :: bs) =>
        let out := w.write limit (b :: bs)
        let waited := waited + step.waited + out.waited
        match out.outcome with
        | .done () =>
            pieces total size limit
              (remaining - (bs.length + 1)) waited
              step.reader out.writer
        | .failed e =>
            ⟨.error (.writer e), waited, step.reader,
              out.writer⟩
        | .ended | .timedOut =>
            ⟨.error .writeTimedOut, waited, step.reader,
              out.writer⟩
  termination_by remaining

/-
  Copy `total` bytes through a buffer that is there.  Its
  size counts as one if it is zero.
-/
def through
    (total size limit : Nat)
    (r : Stream.Reader)
    (w : Stream.Writer) : Result :=
  pieces total (max size 1) limit total 0 r w

end Copy

end Courier

------------------------------------------------------------
-- Buffers
------------------------------------------------------------

namespace Courier

namespace Copy

/- The largest buffer that there can be, in bytes. -/
def maxBuffer : Nat := 9223372036854775807

/- Why a copy stopped: it panicked, or it broke off. -/
inductive Stop where
| panicked : Stop
| broken : Fault → Stop
deriving DecidableEq, Repr

/- What is shown of a stop. -/
def Stop.toIoError : Stop → IoError
  | .panicked =>
      { kind := .other
        message := "capacity overflow" }
  | .broken fault => fault.toIoError

/- The end of a copy that makes its buffer itself. -/
structure Run where
  outcome : Except Stop Nat
  waited : Nat
  reader : Stream.Reader
  writer : Stream.Writer

/- A copy through a buffer that could be made. -/
def Result.toRun
    (x : Result) : Run :=
  { outcome := x.outcome.mapError .broken
    waited := x.waited
    reader := x.reader
    writer := x.writer }

/-
  Copy `total` bytes through a buffer of the given size.
  Making a buffer that can be is taken to succeed.
-/
def exact
    (total size limit : Nat)
    (r : Stream.Reader)
    (w : Stream.Writer) : Run :=
  if maxBuffer < size then
    { outcome := .error .panicked
      waited := 0
      reader := r
      writer := w }
  else
    (through total size limit r w).toRun

end Copy

end Courier
