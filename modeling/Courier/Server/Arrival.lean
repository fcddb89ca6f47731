import Courier.Server.Connection

/-
  How much of a connection has to be there before a server
  can serve it to its end without waiting.

  Key definitions include:
    * `Server.frameSize`
    * `Server.wanted`
-/

------------------------------------------------------------
-- Arrivals
------------------------------------------------------------

namespace Courier

namespace Server

/-
  The number of octets of the first frame, or of the part of
  it that is read if it is too long.
-/
def frameSize
    (s : Server)
    (got : Bytes) : Nat :=
  let length := Bytes.toWord (got.take 4)
  if got.length < 4 ∨ s.maxMessageSize < length then 4
  else 4 + length + 1

/- The number of octets that follow the first frame. -/
def followSize
    (s : Server)
    (got : Bytes) : Nat :=
  let request :=
    Frame.readCommand s.maxMessageSize s.readTimeout
      (.ofBytes got)
  match request.outcome with
  | some (.ok c) =>
      if c.hasVerb Command.uploadVerb then c.dataLength.toNat
      else 0
  | _ => 0

/-
  The number of octets that a connection has to bring, as
  far as those tell that are there.
-/
def wanted
    (s : Server)
    (got : Bytes) : Nat :=
  let size := s.frameSize got
  if got.length < size then size
  else size + s.followSize got

end Server

end Courier
