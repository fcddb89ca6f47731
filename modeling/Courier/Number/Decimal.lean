import Courier.Number.Double
import Courier.Text.Numeral

/-
  Decimal numbers as they are written, and the values that
  they stand for.

  A number without a fraction and an exponent is whole as
  long as it fits 64 bits, signed if it is negative.  Any
  other number is binary.  It is computed from the leading
  digits that fit 64 bits: they are scaled by a power of ten
  with one rounding for the product or the quotient, in
  steps of `10 ^ 308`, so that the last bit may differ from
  that of the exact value.  Numbers beyond the largest
  finite one have no value.

  Key definitions include:
    * `Decimal`
    * `Number`
    * `Decimal.toNumber?`
-/

------------------------------------------------------------
-- Written Numbers
------------------------------------------------------------

namespace Courier

/-
  The parts of a written number.  `fraction` is empty when
  there is no point.
-/
structure Decimal where
  negative : Bool
  whole : List Char
  fraction : List Char
  power : Option (Bool × List Char)
deriving DecidableEq, Repr

/- The value of a number: whole or binary. -/
inductive Number where
| whole : Int → Number
| binary : Double → Number
deriving DecidableEq, Repr

end Courier

------------------------------------------------------------
-- Leading Digits
------------------------------------------------------------

namespace Courier

namespace Decimal

/- One past the largest number of 64 bits. -/
def wordBound : Nat := 18446744073709551616

/- The value of one digit. -/
def digitValue
    (c : Char) : Nat :=
  c.toNat - 48

/-
  Take digits while the number stays below the bound.  The
  result is the number and the digits that are left.
-/
def leading
    (n : Nat) : List Char → Nat × List Char
  | [] => (n, [])
  | c :: rest =>
      let next := n * 10 + digitValue c
      if next < wordBound then leading next rest
      else (n, c :: rest)

end Decimal

end Courier

------------------------------------------------------------
-- Powers of Ten
------------------------------------------------------------

namespace Courier

namespace Decimal

/- The magnitude nearest to a power of ten. -/
def ten
    (e : Nat) : Magnitude :=
  Magnitude.ofNat (Nat.pow 10 e)

/-
  Scale down by a power of ten, in steps of `10 ^ 308` as
  long as the exponent is larger and something is left.
-/
def scaleDown
    (x : Magnitude)
    (e : Nat) : Magnitude :=
  if hLe : e ≤ 308 then
    x.div (ten e)
  else if x = 0 then
    0
  else
    scaleDown (x.div (ten 308)) (e - 308)
  termination_by e

/-
  The magnitude of `n * 10 ^ e` computed from the magnitude
  of `n`, if it is finite.
-/
def scale?
    (n : Nat)
    (e : Int) : Option Magnitude :=
  let x := Magnitude.ofNat n
  if 0 ≤ e then
    if x = 0 then
      some 0
    else if 308 < e then
      none
    else
      let product := x.mul (ten e.toNat)
      if product.isFinite then some product else none
  else
    some (scaleDown x (-e).toNat)

end Decimal

end Courier

------------------------------------------------------------
-- Values
------------------------------------------------------------

namespace Courier

namespace Decimal

/- The largest exponent that is taken as written. -/
def powerBound : Nat := 2147483648

/- Bring an exponent into the range of 32 bits. -/
def clampPower
    (e : Int) : Int :=
  max (-2147483648) (min 2147483647 e)

/-
  The magnitude of a binary number.  An exponent that does
  not fit 32 bits makes the number zero when it is negative
  or nothing but zeros was written, and too large otherwise.
-/
def magnitude?
    (d : Decimal) : Option Magnitude :=
  let (n, spare) := leading 0 d.whole
  let (m, cut) := leading n d.fraction
  let exponent :=
    (spare.length : Int) -
      ((d.fraction.length - cut.length : Nat) : Int)
  match d.power with
  | none => scale? m exponent
  | some (down, digits) =>
      let power := Numeral.value digits
      if powerBound ≤ power then
        if m = 0 ∨ down then some 0 else none
      else if down then
        scale? m (clampPower (exponent - power))
      else
        scale? m (clampPower (exponent + power))

/- The value of a written number, if it is finite. -/
def toNumber?
    (d : Decimal) : Option Number :=
  let n := Numeral.value d.whole
  let isWhole :=
    d.fraction.isEmpty && d.power.isNone
  if isWhole && !d.negative && n < wordBound then
    some (.whole n)
  else if isWhole && d.negative && 0 < n &&
      n ≤ 9223372036854775808 then
    some (.whole (-(n : Int)))
  else
    (magnitude? d).map fun x =>
      .binary { negative := d.negative, magnitude := x }

end Decimal

end Courier
