import Courier.Key.Curve
import Courier.Key.Primes
import Courier.Key.Twisted
import Courier.Tls.Der
import Courier.Tls.Pem

/-
  Private keys, as far as it matters which public key they
  belong to.

  A key is a product of primes, a point on a curve, or a
  point on the twisted curve.  It stands alone or together
  with the name of its algorithm.  A public key that is
  written beside it must be the one that belongs to it.

  Key definitions include:
    * `Tls.PrivateKey`
    * `Tls.PrivateKey.ofPrimes?`
    * `Tls.PrivateKey.ofCurve?`
    * `Tls.PrivateKey.ofTwisted?`
    * `Tls.PrivateKey.ofSection?`
-/

------------------------------------------------------------
-- Algorithms
------------------------------------------------------------

namespace Courier

namespace Tls

/- A private key, by the public key that belongs to it. -/
structure PrivateKey where
  publicKey : Bytes
deriving DecidableEq, Repr

namespace PrivateKey

/- The name of products of primes. -/
def primesName : Bytes :=
  [6, 9, 42, 134, 72, 134, 247, 13, 1, 1, 1, 5, 0]

/- The name of points on the twisted curve. -/
def twistedName : Bytes := [6, 3, 43, 101, 112]

/- The name of points on a curve without the curve's own. -/
def curveName : Bytes := [6, 7, 42, 134, 72, 206, 61, 2, 1]

/- The curves that are in use, with their names. -/
def curves : List (Bytes × Curve) :=
  [([6, 8, 42, 134, 72, 206, 61, 3, 1, 7], Curve.p256),
    ([6, 5, 43, 129, 4, 0, 34], Curve.p384)]

/- The key whose public key has a name and some octets. -/
def ofPublic
    (name octets : Bytes) : PrivateKey where
  publicKey :=
    Der.encode Der.sequenceTag name ++ Der.ofBits octets

end PrivateKey

end Tls

end Courier

------------------------------------------------------------
-- Keys Alone
------------------------------------------------------------

namespace Courier

namespace Tls

namespace PrivateKey

/- The numbers of a product of primes, after a zero. -/
def primes?
    (content : Bytes) : Option Primes :=
  match (Der.sequence? content).bind fun items =>
      items.mapM Der.Element.natural? with
  | some [0, n, e, d, p, q, dp, dq, i] =>
      some
        { modulus := n
          exponent := e
          secret := d
          first := p
          second := q
          firstSecret := dp
          secondSecret := dq
          inverse := i }
  | _ => none

/- A product of primes. -/
def ofPrimes?
    (content : Bytes) : Option PrivateKey :=
  match primes? content with
  | some k =>
      if k.IsUsable then
        some
          (ofPublic primesName
            (Der.encode Der.sequenceTag
              (Der.ofNatural k.modulus ++
                Der.ofNatural k.exponent)))
      else
        none
  | none => none

/-
  The octets of the point at the end of a key on a curve.
  The name of the curve may stand before it.
-/
def pointOf?
    (name : Bytes) : List Der.Element → Option Bytes
  | [point] =>
      if point.tag = Der.placeTag 1 then
        (Der.single? point.content).bind Der.Element.bits?
      else
        none
  | [curve, point] =>
      if curve.tag = Der.placeTag 0 ∧
          curve.content = name ∧
          point.tag = Der.placeTag 1 then
        (Der.single? point.content).bind Der.Element.bits?
      else
        none
  | _ => none

/- A number, and the point on a curve that it makes. -/
def ofCurve?
    (name : Bytes)
    (curve : Curve)
    (content : Bytes) : Option PrivateKey :=
  match Der.sequence? content with
  | some (version :: number :: rest) =>
      if version.natural? = some 1 ∧
          number.tag = Der.octetsTag then
        match pointOf? name rest,
            curve.publicBytes? number.content with
        | some point, some known =>
            if point = known then
              some (ofPublic (curveName ++ name) point)
            else
              none
        | _, _ => none
      else
        none
  | _ => none

/- The octets of a key on the twisted curve. -/
def ofTwisted?
    (content : Bytes) : Option PrivateKey :=
  match Der.single? content with
  | some e =>
      if e.tag = Der.octetsTag then
        (Twisted.publicBytes? e.content).map
          (ofPublic twistedName)
      else
        none
  | none => none

end PrivateKey

end Tls

end Courier

------------------------------------------------------------
-- Keys with Names
------------------------------------------------------------

namespace Courier

namespace Tls

namespace PrivateKey

/- A key with the name of its algorithm. -/
structure Named where
  version : Nat
  name : Bytes
  content : Bytes
  more : List Der.Element
deriving DecidableEq, Repr

/- What follows the attributes, if there are any. -/
def afterAttributes : List Der.Element → List Der.Element
  | [] => []
  | e :: rest =>
      if e.tag = Der.placeTag 0 then rest else e :: rest

/- The parts of a key with a name. -/
def named?
    (bytes : Bytes) : Option Named :=
  match Der.sequence? bytes with
  | some (version :: name :: key :: more) =>
      if name.tag = Der.sequenceTag ∧
          key.tag = Der.octetsTag then
        version.natural?.map fun n =>
          { version := n
            name := name.content
            content := key.content
            more := afterAttributes more }
      else
        none
  | _ => none

/- The public key beside a key of the second version. -/
def beside? : List Der.Element → Option Bytes
  | [e] =>
      if e.tag = Der.placeTag 1 then
        (Der.single? e.content).bind Der.Element.bits?
      else if e.tag = Der.plainPlaceTag 1 then
        Der.wholeBits? e.content
      else
        none
  | _ => none

/- A key of the first version, which stands alone. -/
def ofAlone?
    (k : Named) : Option PrivateKey :=
  if k.version = 0 ∧ k.more.isEmpty then
    if k.name = primesName then
      ofPrimes? k.content
    else
      curves.findSome? fun (name, curve) =>
        if k.name = curveName ++ name then
          ofCurve? name curve k.content
        else
          none
  else
    none

/-
  A key on the twisted curve, which may be of either
  version.  The second one has its public key beside it.
-/
def ofEither?
    (k : Named) : Option PrivateKey :=
  match ofTwisted? k.content with
  | none => none
  | some key =>
      if k.version = 0 ∧ k.more.isEmpty then
        some key
      else if k.version = 1 ∧
          (beside? k.more).map (ofPublic twistedName) =
            some key then
        some key
      else
        none

/- The key that octets with a name hold. -/
def ofNamed?
    (bytes : Bytes) : Option PrivateKey :=
  match named? bytes with
  | none => none
  | some k =>
      if k.name = twistedName then ofEither? k
      else ofAlone? k

/- The key that a section holds. -/
def ofSection?
    (s : Pem.Section) : Option PrivateKey :=
  match s.label with
  | .key => ofNamed? s.content
  | .rsaKey => ofPrimes? s.content
  | .ecKey =>
      curves.findSome? fun (name, curve) =>
        ofCurve? name curve s.content
  | _ => none

end PrivateKey

end Tls

end Courier
