import Courier.Number.Double
import Courier.Settings.Value
import Courier.Text.Numeral
import Courier.Text.Parse

/-
  Numbers of JSON5.

  Key definitions include:
    * `Magnitude.ofScientific`
    * `Magnitude.truncate`
    * `Json5.number`
-/

------------------------------------------------------------
-- Rounding
------------------------------------------------------------

namespace Courier

namespace Magnitude

/-
  The magnitude nearest to `n * 10 ^ e`.  An exponent that
  outweighs the digits need not be worked out.
-/
def ofScientific
    (n : Nat)
    (e : Int) : Magnitude :=
  if n = 0 then 0
  else if 400 < e then infinity
  else if 0 ≤ e then ofRatio (n * Nat.pow 10 e.toNat) 1
  else if e < -((Nat.log2 n : Int)) - 400 then 0
  else ofRatio n (Nat.pow 10 (-e).toNat)

/- The whole part of a finite magnitude. -/
def truncate
    (x : Magnitude) : Nat :=
  x.significand * Nat.pow 2 x.exponent / Nat.pow 2 1074

end Magnitude

end Courier

------------------------------------------------------------
-- Numbers
------------------------------------------------------------

namespace Courier

namespace Json5

/- A digit of a number in base sixteen. -/
def isHexDigit
    (c : Char) : Bool :=
  c.isDigit || ('a' ≤ c && c ≤ 'f') || ('A' ≤ c && c ≤ 'F')

/- The value of digits in base sixteen. -/
def hexValue
    (digits : List Char) : Nat :=
  digits.foldl
    (fun n c =>
      n * 16 +
        (if c.isDigit then c.toNat - 48
        else c.toLower.toNat - 87))
    0

/- More than any setting can be. -/
def beyond : Int := Nat.pow 2 1024

/-
  A number in base sixteen.  It stands for nothing if it has
  a sign or is too large.
-/
def hexadecimal
    (sign : Option Char) : Parse (Option Quantity) := do
  Parse.exactly "0x" <|> Parse.exactly "0X"
  let n := hexValue (← Parse.takeWhile1 isHexDigit)
  return if sign.isNone ∧ n < UInt32.size then
      some (.loose n true)
    else
      none

/-
  A number that is not finite.  It stands for nothing after
  a plus.
-/
def special
    (sign : Option Char) : Parse (Option Quantity) := do
  let most := if sign.isSome then -beyond else beyond
  let q ←
    (Parse.exactly "Infinity" *>
      pure (Quantity.loose most true)) <|>
    (Parse.exactly "NaN" *> pure (Quantity.loose 0 true))
  return if sign = some '+' then none else some q

/- An exponent, with its sign. -/
def exponent : Parse Int := do
  let _ ← Parse.satisfy fun c => c == 'e' || c == 'E'
  let sign ← Parse.option
    (Parse.satisfy fun c => c == '+' || c == '-')
  let n := Numeral.value (← Parse.takeWhile1 Char.isDigit)
  return if sign = some '-' then -(n : Int) else n

/- The digits before the point, without a needless zero. -/
def wholeDigits : Parse (List Char) := do
  match ← Parse.peek with
  | some '0' => Parse.exactly "0" *> pure ['0']
  | _ => Parse.takeWhile1 Char.isDigit

/- The digits around the point, if there is one. -/
def pointed : Parse (List Char × Option (List Char)) := do
  match ← Parse.option wholeDigits with
  | some whole =>
      let point ← Parse.option
        (Parse.exactly "." *> Parse.takeWhile Char.isDigit)
      return (whole, point)
  | none =>
      Parse.exactly "."
      let digits ← Parse.takeWhile1 Char.isDigit
      return ([], some digits)

/-
  A decimal number.  What has no point and no exponent is
  plain only if it fits 64 bits with a sign.  What is not
  finite stands for nothing.
-/
def decimal
    (sign : Option Char) : Parse (Option Quantity) := do
  let (whole, point) ← pointed
  let power ← Parse.option exponent
  let digits := point.getD []
  let n := Numeral.value (whole ++ digits)
  let x := Magnitude.ofScientific n
    (power.getD 0 - (digits.length : Int))
  let negative := sign = some '-'
  let isPlain :=
    point.isSome || power.isSome ||
      n < Nat.pow 2 63 ||
        (negative && n = Nat.pow 2 63)
  let cut : Int := x.truncate
  return if x.isFinite then
      some (.loose (if negative then -cut else cut) isPlain)
    else
      none

/- A number, if it stands for one. -/
def number : Parse (Option Quantity) := do
  let sign ← Parse.option
    (Parse.satisfy fun c => c == '+' || c == '-')
  hexadecimal sign <|> decimal sign <|> special sign

end Json5

end Courier
