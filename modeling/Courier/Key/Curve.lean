import Courier.Bytes
import Courier.Key.Modular

/-
  Points on the curves `y² = x³ - 3 x + b` over the numbers
  up to multiples of a prime, and the keys that they make:
  a number is the private key of the point that many times
  the base point is.

  A point is given by three numbers, which may be scaled
  together.  The law of addition then has no special cases,
  since the number of points is odd.

  Key definitions include:
    * `Curve`
    * `Curve.add`
    * `Curve.times`
    * `Curve.publicBytes?`
    * `Curve.p256`
    * `Curve.p384`
-/

------------------------------------------------------------
-- Curves
------------------------------------------------------------

namespace Courier

/-
  A curve: the octets of one number, the prime, what is
  added on the right-hand side, the number of points, and
  the base point.
-/
structure Curve where
  width : Nat
  field : Nat
  shift : Nat
  order : Nat
  x : Nat
  y : Nat
deriving DecidableEq, Repr

namespace Curve

/- A point, up to a common factor of its numbers. -/
structure Point where
  x : Int
  y : Int
  z : Int
deriving DecidableEq, Repr

/- The point that adding does nothing. -/
def origin : Point :=
  { x := 0, y := 1, z := 0 }

/- The point whose multiples are the public keys. -/
def base
    (c : Curve) : Point :=
  { x := c.x, y := c.y, z := 1 }

/-
  The sum of two points.  It holds for equal points, and
  for points that cancel each other, as for any others.
-/
def add
    (c : Curve)
    (p q : Point) : Point :=
  let m : Int := c.field
  let b : Int := 3 * c.shift
  let xx := p.x * q.x % m
  let yy := p.y * q.y % m
  let zz := p.z * q.z % m
  let xy := (p.x * q.y + q.x * p.y) % m
  let xz := (p.x * q.z + q.x * p.z) % m
  let yz := (p.y * q.z + q.y * p.z) % m
  let s := (b * zz - 3 * xz) % m
  let t := (b * xz - 3 * xx - 9 * zz) % m
  let u := 3 * xx - 3 * zz
  { x := (xy * (yy - s) - yz * t) % m
    y := (u * t + (yy + s) * (yy - s)) % m
    z := (yz * (yy + s) + xy * u) % m }

/- A point added to itself as often as a number says. -/
def times
    (c : Curve)
    (n : Nat)
    (p : Point) : Point :=
  Modular.combine c.add origin p n

/- The octets of a point: a mark and its two coordinates. -/
def pointBytes
    (c : Curve)
    (p : Point) : Bytes :=
  let scale := Modular.inverse c.field p.z
  let x := Modular.mul c.field p.x scale
  let y := Modular.mul c.field p.y scale
  4 :: Bytes.ofNumber c.width x.toNat ++
    Bytes.ofNumber c.width y.toNat

/-
  The public key of a private one, which is a number of the
  full width below the number of points, and not zero.
-/
def publicBytes?
    (c : Curve)
    (secret : Bytes) : Option Bytes :=
  let n := Bytes.toWord secret
  if secret.length = c.width ∧ 0 < n ∧ n < c.order then
    some (c.pointBytes (c.times n c.base))
  else
    none

end Curve

end Courier

------------------------------------------------------------
-- Known Curves
------------------------------------------------------------

namespace Courier

namespace Curve

/- A number in parts of sixteen octets, the highest first. -/
def ofParts
    (parts : List Nat) : Nat :=
  parts.foldl (fun n part => n * Nat.pow 2 128 + part) 0

/- The curve of 256 bits. -/
def p256 : Curve where
  width := 32
  field := ofParts
    [0xffffffff000000010000000000000000,
      0x00000000ffffffffffffffffffffffff]
  shift := ofParts
    [0x5ac635d8aa3a93e7b3ebbd55769886bc,
      0x651d06b0cc53b0f63bce3c3e27d2604b]
  order := ofParts
    [0xffffffff00000000ffffffffffffffff,
      0xbce6faada7179e84f3b9cac2fc632551]
  x := ofParts
    [0x6b17d1f2e12c4247f8bce6e563a440f2,
      0x77037d812deb33a0f4a13945d898c296]
  y := ofParts
    [0x4fe342e2fe1a7f9b8ee7eb4a7c0f9e16,
      0x2bce33576b315ececbb6406837bf51f5]

/- The curve of 384 bits. -/
def p384 : Curve where
  width := 48
  field := ofParts
    [0xffffffffffffffffffffffffffffffff,
      0xfffffffffffffffffffffffffffffffe,
      0xffffffff0000000000000000ffffffff]
  shift := ofParts
    [0xb3312fa7e23ee7e4988e056be3f82d19,
      0x181d9c6efe8141120314088f5013875a,
      0xc656398d8a2ed19d2a85c8edd3ec2aef]
  order := ofParts
    [0xffffffffffffffffffffffffffffffff,
      0xffffffffffffffffc7634d81f4372ddf,
      0x581a0db248b0a77aecec196accc52973]
  x := ofParts
    [0xaa87ca22be8b05378eb1c71ef320ad74,
      0x6e1d3b628ba79b9859f741e082542a38,
      0x5502f25dbf55296c3a545e3872760ab7]
  y := ofParts
    [0x3617de4a96262c6f5d9e98bf9292dc29,
      0xf8f41dbd289a147ce9da3113b5f0b8c0,
      0x0a60b1ce1d7e819d7a431d7c90ea0e5f]

end Curve

end Courier
