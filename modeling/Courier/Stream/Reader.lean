import Courier.Bytes
import Courier.IoError

/-
  The reading side of a connection, as what will arrive.

  A supply is data, a wait, a failure, or silence that never
  ends; after the last supply the connection is at its end.
  Reading takes a limit on the time it may wait, and reports
  how long it did wait.  A wait that takes exactly as long
  as the limit is still in time.

  Key definitions include:
    * `Stream.Supply`
    * `Stream.Reader`
    * `Stream.Outcome`
    * `Stream.Reader.read`
    * `Stream.Reader.readExact`
    * `Stream.Reader.rest?`
-/

------------------------------------------------------------
-- Supplies
------------------------------------------------------------

namespace Courier

namespace Stream

/- One thing that arrives, with times in milliseconds. -/
inductive Supply where
| data : Bytes → Supply
| delay : Nat → Supply
| stall : Supply
| fail : IoError → Supply
deriving DecidableEq, Repr

/- All that will arrive. -/
abbrev Reader := List Supply

/- How a step on a connection ends. -/
inductive Outcome (α : Type) where
| done : α → Outcome α
| ended : Outcome α
| failed : IoError → Outcome α
| timedOut : Outcome α
deriving DecidableEq, Repr

/- The end of a reading step. -/
structure ReadResult where
  outcome : Outcome Bytes
  waited : Nat
  reader : Reader
deriving DecidableEq, Repr

end Stream

end Courier

------------------------------------------------------------
-- Reading
------------------------------------------------------------

namespace Courier

namespace Stream

namespace Reader

/- The reader of bytes that are there already. -/
def ofBytes
    (bytes : Bytes) : Reader :=
  [.data bytes]

/-
  Read some bytes, at most `want`.  Data that arrives is not
  joined with data that arrives later.
-/
def readFrom
    (want limit waited : Nat) : Reader → ReadResult
  | [] => ⟨.ended, waited, []⟩
  | .data [] :: rest => readFrom want limit waited rest
  | .data (b :: bs) :: rest =>
      ⟨.done ((b :: bs).take want), waited,
        .data ((b :: bs).drop want) :: rest⟩
  | .delay ms :: rest =>
      if waited + ms ≤ limit then
        readFrom want limit (waited + ms) rest
      else
        ⟨.timedOut, limit,
          .delay (waited + ms - limit) :: rest⟩
  | .stall :: rest => ⟨.timedOut, limit, .stall :: rest⟩
  | .fail e :: rest => ⟨.failed e, waited, rest⟩

/- Read some bytes, at most `want`, within the limit. -/
def read
    (want limit : Nat)
    (r : Reader) : ReadResult :=
  readFrom want limit 0 r

/-
  Read until `count` more bytes are there.  The bytes so far
  are reversed.
-/
def readExactFrom
    (count limit waited : Nat)
    (bytes : Bytes) : Reader → ReadResult
  | [] =>
      if count = 0 then ⟨.done bytes.reverse, waited, []⟩
      else ⟨.ended, waited, []⟩
  | supply :: rest =>
      if count = 0 then
        ⟨.done bytes.reverse, waited, supply :: rest⟩
      else
        match supply with
        | .data chunk =>
            if chunk.length ≤ count then
              readExactFrom (count - chunk.length) limit waited
                (chunk.reverse ++ bytes) rest
            else
              ⟨.done
                ((chunk.take count).reverse ++ bytes).reverse,
                waited, .data (chunk.drop count) :: rest⟩
        | .delay ms =>
            if waited + ms ≤ limit then
              readExactFrom count limit (waited + ms) bytes rest
            else
              ⟨.timedOut, limit,
                .delay (waited + ms - limit) :: rest⟩
        | .stall => ⟨.timedOut, limit, .stall :: rest⟩
        | .fail e => ⟨.failed e, waited, rest⟩

/- Read exactly `count` bytes within the limit. -/
def readExact
    (count limit : Nat)
    (r : Reader) : ReadResult :=
  readExactFrom count limit 0 [] r

end Reader

end Stream

end Courier

------------------------------------------------------------
-- What Is Left
------------------------------------------------------------

namespace Courier

namespace Stream

namespace Reader

/- The data that is left, if nothing else is in between. -/
def rest? : Reader → Option Bytes
  | [] => some []
  | .data bytes :: rest =>
      match rest? rest with
      | some others => some (bytes ++ others)
      | none => none
  | _ => none

/- All data that will arrive. -/
def content : Reader → Bytes
  | [] => []
  | .data bytes :: rest => bytes ++ content rest
  | _ :: rest => content rest

end Reader

end Stream

end Courier
