import Courier.Bytes

/-
  UTF-8, read with an exact account of the first fault.

  A fault is reported by the index of the character that
  could not be read, and by how many octets of it are
  certainly wrong.  A character that is cut off by the end
  of the bytes is incomplete and has no such count.

  Key definitions include:
    * `Utf8.encode`
    * `Utf8.Fault`
    * `Utf8.Fault.message`
    * `Utf8.Head`
    * `Utf8.head`
    * `Utf8.decode`
    * `Utf8.decodeLossy`
-/

------------------------------------------------------------
-- Writing
------------------------------------------------------------

namespace Courier

namespace Utf8

/- The octets of a list of characters. -/
def encode
    (chars : List Char) : Bytes :=
  chars.flatMap String.utf8EncodeChar

end Utf8

end Courier

------------------------------------------------------------
-- Faults
------------------------------------------------------------

namespace Courier

namespace Utf8

/- Why bytes are not UTF-8. -/
inductive Fault where
| invalid : (count index : Nat) → Fault
| incomplete : (index : Nat) → Fault
deriving DecidableEq, Repr

/- The text of a fault. -/
def Fault.message : Fault → String
  | .invalid count index =>
      s!"invalid utf-8 sequence of {count} bytes from index {index}"
  | .incomplete index =>
      s!"incomplete utf-8 byte sequence from index {index}"

end Utf8

end Courier

------------------------------------------------------------
-- One Character
------------------------------------------------------------

namespace Courier

namespace Utf8

/-
  What the front of a byte string holds: a character and
  its width, a number of octets that no character starts
  with, or a character that is cut off.
-/
inductive Head where
| char : (c : Char) → (width : Nat) → Head
| invalid : (count : Nat) → Head
| cut : Head
deriving DecidableEq, Repr

/- The octets that continue a character. -/
def isContinuation
    (b : Nat) : Bool :=
  128 ≤ b && b < 192

/- The second octets allowed after a lead of width three. -/
def secondOfThree
    (lead second : Nat) : Bool :=
  if lead = 224 then
    160 ≤ second && second < 192
  else if lead = 237 then
    128 ≤ second && second < 160
  else
    isContinuation second

/- The second octets allowed after a lead of width four. -/
def secondOfFour
    (lead second : Nat) : Bool :=
  if lead = 240 then
    144 ≤ second && second < 192
  else if lead = 244 then
    128 ≤ second && second < 144
  else
    isContinuation second

/-
  A lead of width two.  The octets after the lead are those
  of the rest, as far as it has any.
-/
def headOfTwo
    (lead : Nat) : Bytes → Head
  | [] => .cut
  | b :: _ =>
      if isContinuation b.toNat then
        .char
          (Char.ofNat ((lead - 192) * 64 + (b.toNat - 128)))
          2
      else
        .invalid 1

/- A lead of width three. -/
def headOfThree
    (lead : Nat) : Bytes → Head
  | [] => .cut
  | [b] =>
      if secondOfThree lead b.toNat then .cut else .invalid 1
  | b :: c :: _ =>
      if !secondOfThree lead b.toNat then
        .invalid 1
      else if !isContinuation c.toNat then
        .invalid 2
      else
        .char
          (Char.ofNat
            ((lead - 224) * 4096 + (b.toNat - 128) * 64 +
              (c.toNat - 128)))
          3

/- A lead of width four. -/
def headOfFour
    (lead : Nat) : Bytes → Head
  | [] => .cut
  | [b] =>
      if secondOfFour lead b.toNat then .cut else .invalid 1
  | [b, c] =>
      if !secondOfFour lead b.toNat then
        .invalid 1
      else if !isContinuation c.toNat then
        .invalid 2
      else
        .cut
  | b :: c :: d :: _ =>
      if !secondOfFour lead b.toNat then
        .invalid 1
      else if !isContinuation c.toNat then
        .invalid 2
      else if !isContinuation d.toNat then
        .invalid 3
      else
        .char
          (Char.ofNat
            ((lead - 240) * 262144 + (b.toNat - 128) * 4096 +
              (c.toNat - 128) * 64 + (d.toNat - 128)))
          4

/- What starts with a given octet. -/
def head
    (first : UInt8)
    (rest : Bytes) : Head :=
  let lead := first.toNat
  if lead < 128 then
    .char (Char.ofNat lead) 1
  else if lead < 194 then
    .invalid 1
  else if lead < 224 then
    headOfTwo lead rest
  else if lead < 240 then
    headOfThree lead rest
  else if lead < 245 then
    headOfFour lead rest
  else
    .invalid 1

end Utf8

end Courier

------------------------------------------------------------
-- Reading
------------------------------------------------------------

namespace Courier

namespace Utf8

/-
  Read characters up to the first fault.  `skip` octets at
  the front belong to a character that was read before.
-/
def decodeFrom
    (chars : List Char)
    (index skip : Nat) :
    Bytes → Except Fault (List Char)
  | [] => .ok chars.reverse
  | b :: rest =>
      match skip with
      | skip + 1 => decodeFrom chars (index + 1) skip rest
      | 0 =>
          match head b rest with
          | .char c width =>
              decodeFrom (c :: chars) (index + 1) (width - 1)
                rest
          | .invalid count => .error (.invalid count index)
          | .cut => .error (.incomplete index)

/- The characters that bytes spell, or the first fault. -/
def decode
    (bytes : Bytes) : Except Fault (List Char) :=
  decodeFrom [] 0 0 bytes

/-
  Read characters, with one replacement character for every
  run of octets that is certainly wrong and one for a
  character that is cut off.
-/
def decodeLossyFrom
    (chars : List Char)
    (skip : Nat) : Bytes → List Char
  | [] => chars.reverse
  | b :: rest =>
      match skip with
      | skip + 1 => decodeLossyFrom chars skip rest
      | 0 =>
          match head b rest with
          | .char c width =>
              decodeLossyFrom (c :: chars) (width - 1) rest
          | .invalid count =>
              decodeLossyFrom ('\uFFFD' :: chars) (count - 1)
                rest
          | .cut => ('\uFFFD' :: chars).reverse

/- The characters of bytes of any kind. -/
def decodeLossy
    (bytes : Bytes) : List Char :=
  decodeLossyFrom [] 0 bytes

end Utf8

end Courier
