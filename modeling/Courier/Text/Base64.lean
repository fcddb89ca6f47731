import Courier.Bytes

/-
  Base64 with the standard alphabet, padded to groups of
  four symbols, with no stray bits in the last symbol.

  Reading reports the first fault.  A symbol that stands
  alone after the last full group is checked before all
  others, so that a line break at the end is named first.

  There is a second way of reading for text that was broken
  into lines.  Blanks mean nothing, and there are groups of
  eight symbols.  A group may end early, with or without
  padding, and stray bits in its last symbol are dropped.

  Key definitions include:
    * `Base64.encode`
    * `Base64.Fault`
    * `Base64.Fault.message`
    * `Base64.decode`
    * `Base64.decodeGroup`
    * `Base64.decodeLines`
-/

------------------------------------------------------------
-- Symbols
------------------------------------------------------------

namespace Courier

namespace Base64

/- The symbol of a value below sixty-four. -/
def symbol
    (n : Nat) : UInt8 :=
  UInt8.ofNat
    (if n < 26 then 65 + n
    else if n < 52 then 71 + n
    else if n < 62 then n - 4
    else if n = 62 then 43
    else 47)

/- The value of a symbol. -/
def value?
    (b : UInt8) : Option Nat :=
  let n := b.toNat
  if 65 ≤ n ∧ n ≤ 90 then some (n - 65)
  else if 97 ≤ n ∧ n ≤ 122 then some (n - 71)
  else if 48 ≤ n ∧ n ≤ 57 then some (n + 4)
  else if n = 43 then some 62
  else if n = 47 then some 63
  else none

/- The padding octet. -/
def padding : UInt8 := 61

end Base64

end Courier

------------------------------------------------------------
-- Writing
------------------------------------------------------------

namespace Courier

namespace Base64

/- Write groups, collecting the symbols in reverse. -/
def encodeFrom
    (symbols : Bytes) : Bytes → Bytes
  | [] => symbols.reverse
  | [a] =>
      (padding :: padding :: symbol (a.toNat % 4 * 16) ::
        symbol (a.toNat / 4) :: symbols).reverse
  | [a, b] =>
      (padding :: symbol (b.toNat % 16 * 4) ::
        symbol (a.toNat % 4 * 16 + b.toNat / 16) ::
        symbol (a.toNat / 4) :: symbols).reverse
  | a :: b :: c :: rest =>
      encodeFrom
        (symbol (c.toNat % 64) ::
          symbol (b.toNat % 16 * 4 + c.toNat / 64) ::
          symbol (a.toNat % 4 * 16 + b.toNat / 16) ::
          symbol (a.toNat / 4) :: symbols)
        rest

/- The symbols of a byte string, as octets. -/
def encodeBytes
    (bytes : Bytes) : Bytes :=
  encodeFrom [] bytes

/- The symbols of a byte string, as text. -/
def encode
    (bytes : Bytes) : String :=
  String.ofList
    ((encodeBytes bytes).map fun b => Char.ofNat b.toNat)

end Base64

end Courier

------------------------------------------------------------
-- Faults
------------------------------------------------------------

namespace Courier

namespace Base64

/- Why octets are not Base64. -/
inductive Fault where
| symbol : (octet : UInt8) → (offset : Nat) → Fault
| length : (count : Nat) → Fault
| lastSymbol : (octet : UInt8) → (offset : Nat) → Fault
| padding : Fault
deriving DecidableEq, Repr

/- The text of a fault. -/
def Fault.message : Fault → String
  | .symbol octet offset =>
      s!"Invalid symbol {octet.toNat}, offset {offset}."
  | .length count => s!"Invalid input length: {count}"
  | .lastSymbol octet offset =>
      s!"Invalid last symbol {octet.toNat}, offset {offset}."
  | .padding => "Invalid padding"

end Base64

end Courier

------------------------------------------------------------
-- Reading
------------------------------------------------------------

namespace Courier

namespace Base64

/- The values of octets that must all be symbols. -/
def values
    (offset : Nat) : Bytes → Except Fault (List Nat)
  | [] => .ok []
  | b :: rest =>
      match value? b with
      | none => .error (.symbol b offset)
      | some n =>
          match values (offset + 1) rest with
          | .ok ns => .ok (n :: ns)
          | .error fault => .error fault

/-
  Read the last group.  Padding may follow two or three
  symbols, must complete the group and ends it.
-/
def decodeLast
    (octets : Bytes)
    (offset : Nat)
    (group : Bytes) : Except Fault Bytes := do
  let body := group.takeWhile (· != padding)
  let tail := group.dropWhile (· != padding)
  let ns ← values offset body
  let padded := offset + body.length
  if body.length < 2 && !tail.isEmpty ||
      tail.any (· != padding) then
    throw (.symbol padding padded)
  if ns.length < 2 then
    throw (.length padded)
  if group.length % 4 ≠ 0 then
    throw .padding
  match ns, body with
  | [a, b], [_, last] =>
      if b % 16 ≠ 0 then
        throw (.lastSymbol last (offset + 1))
      return (UInt8.ofNat (a * 4 + b / 16) :: octets).reverse
  | [a, b, c], [_, _, last] =>
      if c % 4 ≠ 0 then
        throw (.lastSymbol last (offset + 2))
      return (UInt8.ofNat (b * 16 + c / 4) ::
        UInt8.ofNat (a * 4 + b / 16) :: octets).reverse
  | [a, b, c, d], _ =>
      return (UInt8.ofNat (c * 64 + d) ::
        UInt8.ofNat (b * 16 + c / 4) ::
        UInt8.ofNat (a * 4 + b / 16) :: octets).reverse
  | _, _ => return octets.reverse

/-
  Read groups of four symbols up to the last group, which
  may be short or padded.
-/
def decodeFrom
    (octets : Bytes)
    (offset : Nat) : Bytes → Except Fault Bytes
  | a :: b :: c :: d :: e :: rest =>
      match values offset [a, b, c, d] with
      | .ok [p, q, r, s] =>
          decodeFrom
            (UInt8.ofNat (r * 64 + s) ::
              UInt8.ofNat (q * 16 + r / 4) ::
              UInt8.ofNat (p * 4 + q / 16) :: octets)
            (offset + 4) (e :: rest)
      | .ok _ => .error .padding
      | .error fault => .error fault
  | group => decodeLast octets offset group

/- The byte string that octets spell, or the first fault. -/
def decode
    (octets : Bytes) : Except Fault Bytes :=
  match octets.getLast? with
  | none => .ok []
  | some last =>
      if octets.length % 4 = 1 ∧ last ≠ padding ∧
          (value? last).isNone then
        .error (.symbol last (octets.length - 1))
      else
        decodeFrom [] 0 octets

end Base64

end Courier

------------------------------------------------------------
-- Reading of Lines
------------------------------------------------------------

namespace Courier

namespace Base64

/- Blanks between the symbols of lines. -/
def isGap
    (b : UInt8) : Bool :=
  b == 32 || (9 ≤ b && b ≤ 13)

/-
  The octets of symbol values, collected in reverse.  Of two
  or three values after the last full group, the bits that
  fill no octet are dropped.
-/
def octetsFrom
    (octets : Bytes) : List Nat → Bytes
  | a :: b :: c :: d :: rest =>
      octetsFrom
        (UInt8.ofNat (c * 64 + d) ::
          UInt8.ofNat (b * 16 + c / 4) ::
          UInt8.ofNat (a * 4 + b / 16) :: octets)
        rest
  | [a, b, c] =>
      (UInt8.ofNat (b * 16 + c / 4) ::
        UInt8.ofNat (a * 4 + b / 16) :: octets).reverse
  | [a, b] =>
      (UInt8.ofNat (a * 4 + b / 16) :: octets).reverse
  | _ => octets.reverse

/-
  The byte string that a group of at most eight octets
  spells.  Padding may follow the symbols, as much of it as
  there is room for, and a symbol that fills no octet is a
  fault.
-/
def decodeGroup
    (group : Bytes) : Except Fault Bytes := do
  let body := group.takeWhile (· != padding)
  let tail := group.dropWhile (· != padding)
  let ns ← values 0 body
  if ns.length = 0 ∨ ns.length % 4 = 1 ∨
      tail.any (· != padding) then
    throw .padding
  return octetsFrom [] ns

/- The byte string that groups of eight octets spell. -/
def decodeGroups : Bytes → Except Fault Bytes
  | [] => .ok []
  | a :: b :: c :: d :: e :: f :: g :: h :: rest => do
      let first ← decodeGroup [a, b, c, d, e, f, g, h]
      let others ← decodeGroups rest
      return first ++ others
  | group => decodeGroup group

/- The byte string that lines of symbols spell. -/
def decodeLines
    (octets : Bytes) : Except Fault Bytes :=
  decodeGroups (octets.filter fun b => !isGap b)

end Base64

end Courier
