import Courier.Bytes

/-
  Nested elements of a kind, a length and that many octets.

  Lengths are written in as few octets as possible, and
  every element is shorter than the bytes it was read from.
  Whole numbers are written in as few octets as possible,
  too, with room for a sign.

  Key definitions include:
    * `Der.Element`
    * `Der.next?`
    * `Der.elements?`
    * `Der.sequence?`
    * `Der.Element.natural?`
    * `Der.encode`
    * `Der.ofNatural`

  Key theorems include:
    * `Der.length_of_next?`
-/

------------------------------------------------------------
-- Elements
------------------------------------------------------------

namespace Courier

namespace Der

/- An element, and all of its octets as they were read. -/
structure Element where
  tag : UInt8
  content : Bytes
  raw : Bytes
deriving DecidableEq, Repr

/- The kinds of elements that are looked for. -/
def flagTag : UInt8 := 1
def integerTag : UInt8 := 2
def bitsTag : UInt8 := 3
def octetsTag : UInt8 := 4
def objectTag : UInt8 := 6
def sequenceTag : UInt8 := 48

/-
  A kind whose meaning depends on its place, around other
  elements or around plain octets.
-/
def placeTag
    (n : UInt8) : UInt8 :=
  160 + n
def plainPlaceTag
    (n : UInt8) : UInt8 :=
  128 + n

/- A kind that takes more than one octet. -/
def isLongTag
    (tag : UInt8) : Bool :=
  tag % 32 == 31

/- No element is as long as this. -/
def maxLength : Nat := 65535

/-
  The number of octets that spell a length, and the length.
  A length below 128 is spelled by one octet; for others the
  first octet counts those that follow, at most two.
-/
def length? : Bytes → Option (Nat × Nat)
  | [] => none
  | first :: rest =>
      let n := first.toNat
      if n < 128 then
        some (1, n)
      else
        let digits := rest.take (n - 128)
        let length := Bytes.toWord digits
        if n = 128 ∨ 130 < n ∨ digits.length ≠ n - 128 ∨
            digits.head? = some 0 ∨ length < 128 ∨
            maxLength ≤ length then
          none
        else
          some (n - 127, length)

/- The first element, and what comes after it. -/
def next? : Bytes → Option (Element × Bytes)
  | [] => none
  | tag :: rest =>
      match length? rest with
      | none => none
      | some (width, length) =>
          let body := rest.drop width
          if !isLongTag tag ∧ length ≤ body.length then
            some
              (⟨tag, body.take length,
                tag :: rest.take (width + length)⟩,
                body.drop length)
          else
            none

/- Less is left after an element. -/
theorem length_of_next?
    {bytes rest : Bytes}
    {e : Element}
    (hNext : next? bytes = some (e, rest)) :
    rest.length < bytes.length := by
  cases bytes with
  | nil => simp [next?] at hNext
  | cons tag body =>
      simp only [next?] at hNext
      split at hNext
      · simp at hNext
      · split at hNext
        · simp only [Option.some.injEq, Prod.mk.injEq]
            at hNext
          rw [← hNext.2]
          simp only [List.length_drop, List.length_cons]
          omega
        · simp at hNext

end Der

end Courier

------------------------------------------------------------
-- Sequences
------------------------------------------------------------

namespace Courier

namespace Der

/- All elements, with nothing in between or after them. -/
def elements?
    (bytes : Bytes) : Option (List Element) :=
  if bytes.isEmpty then
    some []
  else
    match _hNext : next? bytes with
    | none => none
    | some (e, rest) =>
        (elements? rest).map (e :: ·)
  termination_by bytes.length
  decreasing_by exact length_of_next? _hNext

/- The elements inside a sequence. -/
def Element.items?
    (e : Element) : Option (List Element) :=
  if e.tag = sequenceTag then elements? e.content else none

/- The only element of bytes. -/
def single?
    (bytes : Bytes) : Option Element :=
  match elements? bytes with
  | some [e] => some e
  | _ => none

/- The elements of bytes that are one sequence. -/
def sequence?
    (bytes : Bytes) : Option (List Element) :=
  (single? bytes).bind Element.items?

/- Bits without a broken octet. -/
def wholeBits? : Bytes → Option Bytes
  | 0 :: octets => some octets
  | _ => none

/- The octets of a string of bits without a broken octet. -/
def Element.bits?
    (e : Element) : Option Bytes :=
  if e.tag = bitsTag then wholeBits? e.content else none

end Der

end Courier

------------------------------------------------------------
-- Whole Numbers
------------------------------------------------------------

namespace Courier

namespace Der

/-
  The number that octets spell, which is not below zero and
  does not start with a needless zero.
-/
def naturalOf? : Bytes → Option Nat
  | [] => none
  | [b] => if b < 128 then some b.toNat else none
  | first :: second :: rest =>
      if 128 ≤ first ∨ (first = 0 ∧ second < 128) then none
      else some (Bytes.toWord (first :: second :: rest))

/- The number that an element holds. -/
def Element.natural?
    (e : Element) : Option Nat :=
  if e.tag = integerTag then naturalOf? e.content else none

end Der

end Courier

------------------------------------------------------------
-- Writing
------------------------------------------------------------

namespace Courier

namespace Der

/- Spell a length. -/
def lengthBytes
    (n : Nat) : Bytes :=
  if n < 128 then
    [UInt8.ofNat n]
  else
    let digits := (Bytes.ofWord n).dropWhile (· == 0)
    UInt8.ofNat (128 + digits.length) :: digits

/- The octets of an element. -/
def encode
    (tag : UInt8)
    (content : Bytes) : Bytes :=
  tag :: lengthBytes content.length ++ content

/- The octets of a string of bits without a broken octet. -/
def ofBits
    (octets : Bytes) : Bytes :=
  encode bitsTag (0 :: octets)

/-
  The octets of a number.  Eight bits more than its length
  leave room for a sign.
-/
def ofNatural
    (n : Nat) : Bytes :=
  encode integerTag (Bytes.ofNumber ((Nat.log2 n + 9) / 8) n)

end Der

end Courier
