/-
  Whole numbers that are taken up to multiples of a modulus,
  and the quick way to put many copies of one thing
  together.

  Key definitions include:
    * `Modular.combine`
    * `Modular.power`
    * `Modular.inverse`
    * `Modular.bitLength`
-/

------------------------------------------------------------
-- Bits
------------------------------------------------------------

namespace Courier

namespace Modular

/- How many bits it takes to write a number. -/
def bitLength
    (n : Nat) : Nat :=
  if n = 0 then 0 else Nat.log2 n + 1

/- The bits of a number, the highest one first. -/
def bits
    (n : Nat) : List Bool :=
  (List.range (bitLength n)).reverse.map n.testBit

end Modular

end Courier

------------------------------------------------------------
-- Many Copies
------------------------------------------------------------

namespace Courier

namespace Modular

/-
  As many copies of `base` as `n` says, put together with
  `op`.  What is there is doubled at every bit of `n`, and
  one copy more is taken where the bit is set.
-/
def combine
    {α : Type}
    (op : α → α → α)
    (unit base : α)
    (n : Nat) : α :=
  (bits n).foldl
    (fun a bit =>
      let twice := op a a
      if bit then op twice base else twice)
    unit

/- A product up to multiples of `m`. -/
def mul
    (m : Nat)
    (a b : Int) : Int :=
  a * b % m

/- A power up to multiples of `m`. -/
def power
    (m : Nat)
    (a : Int)
    (n : Nat) : Int :=
  combine (mul m) 1 a n

/-
  What gives one when multiplied with `a`, up to multiples
  of a prime `m` that does not divide `a`.
-/
def inverse
    (m : Nat)
    (a : Int) : Int :=
  power m a (m - 2)

end Modular

end Courier
