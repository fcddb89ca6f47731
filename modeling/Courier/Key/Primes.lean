import Courier.Key.Modular

/-
  Private keys that are products of two primes, with all the
  numbers that make their use quick.

  Whether a factor is a prime is not looked at, and neither
  is whether the secret exponents belong to the public one:
  only what is cheap to check is checked.

  Key definitions include:
    * `Primes`
    * `Primes.IsUsable`
-/

------------------------------------------------------------
-- Keys
------------------------------------------------------------

namespace Courier

/-
  A product of primes: the product and the public exponent,
  the secret exponent, the two factors, the secret exponent
  for each of them, and the inverse of the second factor.
-/
structure Primes where
  modulus : Nat
  exponent : Nat
  secret : Nat
  first : Nat
  second : Nat
  firstSecret : Nat
  secondSecret : Nat
  inverse : Nat
deriving DecidableEq, Repr

namespace Primes

/- The bits of a factor of a number with some bits. -/
def factorLength
    (bits : Nat) : Nat :=
  (bits + 1) / 2

/- The product is odd and of a common size. -/
def HasUsableModulus
    (k : Primes) : Prop :=
  k.modulus % 2 = 1 ∧
    2040 < Modular.bitLength k.modulus ∧
    Modular.bitLength k.modulus ≤ 4096

/- The public exponent is odd, neither small nor large. -/
def HasUsableExponent
    (k : Primes) : Prop :=
  k.exponent % 2 = 1 ∧ 65537 ≤ k.exponent ∧
    k.exponent < Nat.pow 2 33

/-
  A factor is odd, has half of the bits of the product, a
  multiple of 512 of them, and an odd exponent below it.
-/
def IsUsableFactor
    (k : Primes)
    (factor exponent : Nat) : Prop :=
  let bits := Modular.bitLength factor
  factor % 2 = 1 ∧
    bits = factorLength (Modular.bitLength k.modulus) ∧
    bits % 512 = 0 ∧ exponent % 2 = 1 ∧ exponent < factor

/-
  The secret exponent is odd, below the product, and longer
  than a factor.
-/
def HasUsableSecret
    (k : Primes) : Prop :=
  k.secret % 2 = 1 ∧ k.secret < k.modulus ∧
    factorLength (Modular.bitLength k.modulus) <
      Modular.bitLength k.secret

/-
  The factors divide the product, and the inverse is one up
  to multiples of the first factor.
-/
def IsConsistent
    (k : Primes) : Prop :=
  k.first * k.second % k.modulus = 0 ∧
    k.inverse < k.first ∧
    k.inverse * k.second % k.first = 1

/- The key can be used. -/
def IsUsable
    (k : Primes) : Prop :=
  k.HasUsableModulus ∧ k.HasUsableExponent ∧
    k.IsUsableFactor k.first k.firstSecret ∧
    k.IsUsableFactor k.second k.secondSecret ∧
    k.HasUsableSecret ∧ k.IsConsistent

instance
    (k : Primes) :
    Decidable k.IsUsable := by
  unfold IsUsable HasUsableModulus HasUsableExponent
    IsUsableFactor HasUsableSecret IsConsistent
  infer_instance

end Primes

end Courier
