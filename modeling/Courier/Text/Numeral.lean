/-
  Whole numbers in decimal digits.

  A leading plus sign is accepted everywhere, a leading
  minus sign only where negative numbers are.  Any number of
  leading zeros is accepted.

  Key definitions include:
    * `Numeral.digits?`
    * `Numeral.natural?`
    * `Numeral.integer?`
-/

------------------------------------------------------------
-- Digits
------------------------------------------------------------

namespace Courier

namespace Numeral

/- An ASCII digit. -/
def isDigit
    (c : Char) : Bool :=
  '0' ≤ c && c ≤ '9'

/- The value of a list of digits. -/
def value
    (digits : List Char) : Nat :=
  digits.foldl (fun n c => n * 10 + (c.toNat - 48)) 0

/- The number that a non-empty list of digits spells. -/
def digits?
    (chars : List Char) : Option Nat :=
  if chars.isEmpty || !chars.all isDigit then
    none
  else
    some (value chars)

end Numeral

end Courier

------------------------------------------------------------
-- Signed and Unsigned Numbers
------------------------------------------------------------

namespace Courier

namespace Numeral

/- A number with an optional plus sign, below the bound. -/
def natural?
    (bound : Nat)
    (text : String) : Option Nat :=
  let digits :=
    match text.toList with
    | '+' :: rest => rest
    | chars => chars
  match digits? digits with
  | some n => if n < bound then some n else none
  | none => none

/-
  A number with an optional sign whose value needs at most
  the given count of bits in two's complement.
-/
def integer?
    (bits : Nat)
    (text : String) : Option Int :=
  match text.toList with
  | '-' :: rest =>
      match digits? rest with
      | some n =>
          if n ≤ Nat.pow 2 (bits - 1) then some (-(n : Int))
          else none
      | none => none
  | _ =>
      let bound := Nat.pow 2 (bits - 1)
      (natural? bound text).map fun n => (n : Int)

/- The unsigned numbers of 64 bits. -/
def natural64?
    (text : String) : Option Nat :=
  natural? UInt64.size text

end Numeral

end Courier
