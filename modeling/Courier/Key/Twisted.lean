import Courier.Digest.Sha512
import Courier.Key.Modular

/-
  Points on the twisted curve `y² - x² = 1 + d x² y²` over
  the numbers up to multiples of `2²⁵⁵ - 19`, and the keys
  that they make: the digest of a private key says how many
  times the base point is taken.

  A point is given by three numbers, which may be scaled
  together.  The law of addition has no special cases.

  Key definitions include:
    * `Twisted.add`
    * `Twisted.times`
    * `Twisted.publicBytes?`
-/

------------------------------------------------------------
-- Points
------------------------------------------------------------

namespace Courier

namespace Twisted

/- The prime. -/
def field : Nat := Nat.pow 2 255 - 19

/- The factor `d` of the curve. -/
def factor : Int :=
  Modular.mul field (-121665) (Modular.inverse field 121666)

/- A point, up to a common factor of its numbers. -/
structure Point where
  x : Int
  y : Int
  z : Int
deriving DecidableEq, Repr

/- The point that adding does nothing. -/
def origin : Point :=
  { x := 0, y := 1, z := 1 }

/-
  The point whose multiples are the public keys.  Its second
  coordinate is four fifths.
-/
def base : Point :=
  { x := 0x216936d3cd6e53fec0a4e231fdd6dc5c692cc7609525a7b2c9562d608f25d51a
    y := Modular.mul field 4 (Modular.inverse field 5)
    z := 1 }

/- The sum of two points. -/
def add
    (d : Int)
    (p q : Point) : Point :=
  let m : Int := field
  let zz := p.z * q.z % m
  let xx := p.x * q.x % m
  let yy := p.y * q.y % m
  let square := zz * zz % m
  let e := d * xx % m * yy % m
  let xy := (p.x * q.y + p.y * q.x) % m
  { x := zz * (square - e) % m * xy % m
    y := zz * (square + e) % m * (yy + xx) % m
    z := (square - e) * (square + e) % m }

/- A point added to itself as often as a number says. -/
def times
    (n : Nat)
    (p : Point) : Point :=
  Modular.combine (add factor) origin p n

/-
  The octets of a point: the second coordinate, the lowest
  octet first, with the last bit of the first coordinate in
  its highest bit.
-/
def pointBytes
    (p : Point) : Bytes :=
  let scale := Modular.inverse field p.z
  let x := (Modular.mul field p.x scale).toNat
  let y := (Modular.mul field p.y scale).toNat
  Bytes.ofNumberReversed 32 (y + x % 2 * Nat.pow 2 255)

end Twisted

end Courier

------------------------------------------------------------
-- Keys
------------------------------------------------------------

namespace Courier

namespace Twisted

/-
  The number of times that the base point is taken for a
  private key: the first half of its digest, the lowest
  octet first, in which the last three bits and the first
  one are cleared and the second one is set.
-/
def scalar
    (secret : Bytes) : Nat :=
  let half := (Sha512.digest secret).take 32
  let n := Bytes.toWord half.reverse
  n % Nat.pow 2 254 / 8 * 8 + Nat.pow 2 254

/- The octets of a private key. -/
def secretLength : Nat := 32

/- The public key of a private one. -/
def publicBytes?
    (secret : Bytes) : Option Bytes :=
  if secret.length = secretLength then
    some (pointBytes (times (scalar secret) base))
  else
    none

end Twisted

end Courier
