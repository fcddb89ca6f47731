/-
  Binary floating-point numbers of 64 bits, as bit patterns
  with exact rational rounding.

  A magnitude is the pattern without the sign: eleven bits
  of exponent over fifty-two bits of fraction.  Magnitudes
  from `infinity` on are not finite.  Results of arithmetic
  are rounded to the nearest magnitude, ties to the even
  pattern.

  Key definitions include:
    * `Magnitude.significand`
    * `Magnitude.exponent`
    * `Magnitude.ofRatio`
    * `Magnitude.mul`
    * `Magnitude.div`
    * `Double`
-/

------------------------------------------------------------
-- Magnitudes
------------------------------------------------------------

namespace Courier

/- The pattern of a number that is not negative. -/
abbrev Magnitude := Nat

namespace Magnitude

/- One past the largest fraction field. -/
def unit : Nat := 4503599627370496

/- The pattern of positive infinity. -/
def infinity : Magnitude := 2047 * unit

/- The magnitude stands for a number. -/
def isFinite
    (x : Magnitude) : Bool :=
  x < infinity

/-
  The significand of a finite magnitude, whose value is
  `significand * 2 ^ (exponent - 1074)`.
-/
def significand
    (x : Magnitude) : Nat :=
  if x / unit = 0 then x else x % unit + unit

/- The exponent of a finite magnitude, counted from zero. -/
def exponent
    (x : Magnitude) : Nat :=
  x / unit - 1

/-
  The quotient rounded to a whole number, ties to the even
  neighbour.
-/
def roundQuotient
    (num den : Nat) : Nat :=
  let q := num / den
  let twice := 2 * (num % den)
  if twice < den then q
  else if twice = den ∧ q % 2 = 0 then q
  else q + 1

/-
  The magnitude nearest to `num / den` times `2 ^ -1074`
  scaled down by `2 ^ shift`, where the quotient is below
  `2 ^ 53`.  A significand that rounds up to the next power
  of two carries into the exponent field.
-/
def pack
    (num den shift : Nat) : Magnitude :=
  roundQuotient num (den * Nat.pow 2 shift) + shift * unit

/-
  The magnitude nearest to a ratio.  The shift is the least
  one that leaves a quotient below `2 ^ 53`.
-/
def ofRatio
    (num den : Nat) : Magnitude :=
  let scaled := num * Nat.pow 2 1074
  let shift := Nat.log2 (scaled / den) - 52
  let packed := pack scaled den shift
  if packed < infinity then packed else infinity

/- The magnitude nearest to a whole number. -/
def ofNat
    (n : Nat) : Magnitude :=
  ofRatio n 1

/- The product of finite magnitudes, rounded. -/
def mul
    (x y : Magnitude) : Magnitude :=
  ofRatio
    (x.significand * y.significand *
      Nat.pow 2 (x.exponent + y.exponent))
    (Nat.pow 2 2148)

/- The quotient of finite magnitudes, rounded. -/
def div
    (x y : Magnitude) : Magnitude :=
  ofRatio
    (x.significand * Nat.pow 2 x.exponent)
    (y.significand * Nat.pow 2 y.exponent)

end Magnitude

end Courier

------------------------------------------------------------
-- Signed Numbers
------------------------------------------------------------

namespace Courier

/- A finite number: its sign and its magnitude. -/
structure Double where
  negative : Bool
  magnitude : Magnitude
deriving DecidableEq, Repr

end Courier
