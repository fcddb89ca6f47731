import Courier.Number.Double

/-
  The shortest decimal digits that read back as a given
  magnitude.

  A decimal reads back if it lies between the midpoints to
  the neighbouring magnitudes, the midpoints included when
  the significand is even.  For one, two, and up to
  seventeen digits the two decimals next to the value are
  tried; the first length with a hit wins, and of two hits
  the nearer one, of two equally near the even one.

  Key definitions include:
    * `Shortest.Interval`
    * `Shortest.interval`
    * `Shortest.decimalExponent`
    * `Shortest.choose`
    * `Shortest.digits`
    * `Shortest.layout`
-/

------------------------------------------------------------
-- The Interval That Reads Back
------------------------------------------------------------

namespace Courier

namespace Shortest

/-
  A value with the midpoints to its neighbours, all as
  multiples of `1 / den`.
-/
structure Interval where
  low : Nat
  value : Nat
  high : Nat
  den : Nat
  closed : Bool
deriving DecidableEq, Repr

/-
  The interval of a magnitude.  Below a power of two the
  neighbour is half as far away as above it.
-/
def interval
    (x : Magnitude) : Interval :=
  let m := x.significand
  let scale := Nat.pow 2 x.exponent
  let narrow :=
    m = Magnitude.unit ∧ 0 < x.exponent
  { low := (4 * m - if narrow then 1 else 2) * scale
    value := 4 * m * scale
    high := (4 * m + 2) * scale
    den := Nat.pow 2 1076
    closed := m % 2 = 0 }

/- The decimal `d * num / den` lies in the interval. -/
def Interval.holds
    (i : Interval)
    (d num den : Nat) : Bool :=
  let point := d * num * i.den
  if i.closed then
    i.low * den ≤ point && point ≤ i.high * den
  else
    i.low * den < point && point < i.high * den

end Shortest

end Courier

------------------------------------------------------------
-- Decimal Grids
------------------------------------------------------------

namespace Courier

namespace Shortest

/- The number of decimal digits of a positive number. -/
def digitCount
    (n : Nat) : Nat :=
  (Nat.toDigits 10 n).length

/-
  The exponent of the leading digit of `value / den`: the
  estimate from the digit counts is at most one too high.
-/
def decimalExponent
    (value den : Nat) : Int :=
  if den ≤ value then
    (digitCount (value / den) : Int) - 1
  else
    let places := digitCount (den / value)
    if den ≤ value * Nat.pow 10 (places - 1) then
      -((places : Int) - 1)
    else
      -(places : Int)

/- The numerator of a power of ten. -/
def tenNum
    (e : Int) : Nat :=
  Nat.pow 10 e.toNat

/- The denominator of a power of ten. -/
def tenDen
    (e : Int) : Nat :=
  Nat.pow 10 (-e).toNat

/-
  The better of the two decimals with unit `10 ^ e` next to
  the value, if one reads back.
-/
def choose
    (i : Interval)
    (e : Int) : Option Nat :=
  let num := tenNum e
  let den := tenDen e
  let below := i.value * den / (i.den * num)
  let rest := i.value * den % (i.den * num)
  let belowHolds := 0 < below && i.holds below num den
  let aboveHolds := i.holds (below + 1) num den
  let nearBelow :=
    2 * rest < i.den * num ||
      (2 * rest == i.den * num && below % 2 == 0)
  if belowHolds && aboveHolds then
    some (if nearBelow then below else below + 1)
  else if belowHolds then
    some below
  else if aboveHolds then
    some (below + 1)
  else
    none

/-
  Try the grids with `count`, `count + 1`, ... digits.  The
  result is a number with the exponent of its unit.
-/
def search
    (i : Interval)
    (top : Int)
    (count : Nat) : Nat → Nat × Int
  | 0 => (0, 0)
  | fuel + 1 =>
      let e := top - (count : Int) + 1
      match choose i e with
      | some d => (d, e)
      | none => search i top (count + 1) fuel

/-
  The digits of a positive magnitude, without zeros at the
  end, and the exponent of the first one.
-/
def digits
    (x : Magnitude) : List Char × Int :=
  let i := interval x
  let (d, e) :=
    search i (decimalExponent i.value i.den) 1 17
  let written := Nat.toDigits 10 d
  let short :=
    (written.reverse.dropWhile (· == '0')).reverse
  (short, e + (written.length : Int) - 1)

end Shortest

end Courier

------------------------------------------------------------
-- Layout
------------------------------------------------------------

namespace Courier

namespace Shortest

/- The digits with a point after the first `whole` ones. -/
def positional
    (digits : List Char)
    (whole : Nat) : List Char :=
  let fraction := digits.drop whole
  digits.take whole ++
    List.replicate (whole - digits.length) '0' ++ '.' ::
      (if fraction.isEmpty then ['0'] else fraction)

/- One digit before the point and a signed exponent. -/
def scientific
    (digits : List Char)
    (e : Int) : List Char :=
  let fraction := digits.drop 1
  digits.take 1 ++
    (if fraction.isEmpty then [] else '.' :: fraction) ++
    'e' :: (if e < 0 then '-' else '+') ::
      Nat.toDigits 10 e.natAbs

/-
  A magnitude is written with a point if the exponent of
  its first digit is from -5 to 15, and with an exponent
  otherwise.
-/
def layout
    (digits : List Char)
    (e : Int) : List Char :=
  if e < -5 ∨ 15 < e then
    scientific digits e
  else if e < 0 then
    '0' :: '.' ::
      (List.replicate ((-e).toNat - 1) '0' ++ digits)
  else
    positional digits (e.toNat + 1)

/- The text of a finite number. -/
def render
    (x : Double) : List Char :=
  let body :=
    if x.magnitude = 0 then
      ['0', '.', '0']
    else
      let (ds, e) := digits x.magnitude
      layout ds e
  if x.negative then '-' :: body else body

end Shortest

end Courier
