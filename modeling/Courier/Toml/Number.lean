import Courier.Settings.Value
import Courier.Toml.Text

/-
  Numbers, dates and times of TOML.

  Key definitions include:
    * `Toml.integer`
    * `Toml.fraction`
    * `Toml.moment`
-/

------------------------------------------------------------
-- Digits
------------------------------------------------------------

namespace Courier

namespace Toml

/- Digits, where single underscores may stand between two. -/
def digitsOf
    (isGood : Char → Bool) : Parse (List Char) := do
  let first ← Parse.satisfy isGood
  let rest ← Parse.many
    (Parse.satisfy isGood <|>
      (Parse.exactly "_" *> Parse.satisfy isGood))
  return first :: rest

/- A sign, negative or not. -/
def sign : Parse Bool := do
  match ← Parse.peek with
  | some '-' => Parse.exactly "-" *> pure true
  | some '+' => Parse.exactly "+" *> pure false
  | _ => return false

/- The digits of a number that has no needless zero. -/
def wholeDigits : Parse (List Char) := do
  match ← Parse.peek with
  | some '0' => Parse.exactly "0" *> pure ['0']
  | _ => digitsOf Char.isDigit

/- The value of digits in a base. -/
def digitsValue
    (base : Nat)
    (digits : List Char) : Nat :=
  digits.foldl (fun n c => n * base + hexValue [c]) 0

end Toml

end Courier

------------------------------------------------------------
-- Integers
------------------------------------------------------------

namespace Courier

namespace Toml

/- An exact number of 64 bits with a sign. -/
def bounded
    (n : Int) : Parse Value :=
  if -Nat.pow 2 63 ≤ n ∧ n < Nat.pow 2 63 then
    return .number (.exact n)
  else failure

/- The digits of a number in another base. -/
def inBase
    (mark : String)
    (base : Nat)
    (isGood : Char → Bool) : Parse Value := do
  Parse.exactly mark
  let digits ← digitsOf isGood
  bounded (digitsValue base digits)

/- A whole number. -/
def integer : Parse Value := do
  if ← Parse.sees "0x" then inBase "0x" 16 isHexDigit
  else if ← Parse.sees "0o" then
    inBase "0o" 8 fun c => '0' ≤ c && c ≤ '7'
  else if ← Parse.sees "0b" then
    inBase "0b" 2 fun c => c == '0' || c == '1'
  else
    let negative ← sign
    let n := digitsValue 10 (← wholeDigits)
    bounded (if negative then -(n : Int) else n)

end Toml

end Courier

------------------------------------------------------------
-- Fractions
------------------------------------------------------------

namespace Courier

namespace Toml

/-
  The least whole number that no binary number of 64 bits
  stands for, not even after rounding.
-/
def tooLarge : Nat := Nat.pow 2 1024 - Nat.pow 2 970

/-
  The number `n * 10 ^ e` is too large.  An exponent that
  outweighs the digits need not be worked out.
-/
def isTooLarge
    (n : Nat)
    (digits : Nat)
    (e : Int) : Bool :=
  if n = 0 then false
  else if 400 < e then true
  else if 0 ≤ e then tooLarge ≤ n * Nat.pow 10 e.toNat
  else if e < -((digits : Int)) then false
  else tooLarge * Nat.pow 10 (-e).toNat ≤ n

/- An exponent, with its sign. -/
def exponent : Parse Int := do
  let _ ← Parse.satisfy fun c => c == 'e' || c == 'E'
  let negative ← sign
  let n := digitsValue 10 (← digitsOf Char.isDigit)
  return if negative then -(n : Int) else n

/- A number with a point or an exponent. -/
def decimal : Parse Value := do
  let negative ← sign
  let whole ← wholeDigits
  let digits ← Parse.option
    (Parse.exactly "." *> digitsOf Char.isDigit)
  let digits := digits.getD []
  let power ←
    if digits.isEmpty then some <$> exponent
    else Parse.option exponent
  let all := whole ++ digits
  let large :=
    isTooLarge (digitsValue 10 all) all.length
      (power.getD 0 - (digits.length : Int))
  if large && !negative then failure
  else return .number .fraction

/- A number that is not finite. -/
def special : Parse Value := do
  let _ ← sign
  Parse.exactly "inf" <|> Parse.exactly "nan"
  return .number .fraction

/- A number that is not whole. -/
def fraction : Parse Value :=
  decimal <|> special

end Toml

end Courier

------------------------------------------------------------
-- Dates and Times
------------------------------------------------------------

namespace Courier

namespace Toml

/- A number of exactly so many digits, within bounds. -/
def field
    (digits least most : Nat) : Parse Nat := do
  let n := digitsValue 10 (← Parse.count Char.isDigit digits)
  if least ≤ n ∧ n ≤ most then return n
  else failure

/- The number of days of a month. -/
def daysOf
    (year month : Nat) : Nat :=
  if month = 2 then
    if year % 4 = 0 ∧ (year % 100 ≠ 0 ∨ year % 400 = 0) then 29
    else 28
  else if month ∈ [4, 6, 9, 11] then 30
  else 31

/- A day of the calendar. -/
def date : Parse Unit := do
  let year ← field 4 0 9999
  Parse.exactly "-"
  let month ← field 2 1 12
  Parse.exactly "-"
  let _ ← field 2 1 (daysOf year month)

/- A time of the day, which may end in a leap second. -/
def time : Parse Unit := do
  let _ ← field 2 0 23
  Parse.exactly ":"
  let _ ← field 2 0 59
  Parse.exactly ":"
  let _ ← field 2 0 60
  let _ ← Parse.option
    (Parse.exactly "." *> Parse.takeWhile1 Char.isDigit)

/- The distance of a clock from universal time. -/
def zone : Parse Unit := do
  match ← Parse.satisfy fun _ => true with
  | 'Z' | 'z' => return
  | '+' | '-' =>
      let _ ← field 2 0 23
      Parse.exactly ":"
      let _ ← field 2 0 59
  | _ => failure

/- The time that follows a date. -/
def timeOfDate : Parse Unit := do
  let _ ← Parse.satisfy fun c =>
    c == 'T' || c == 't' || c == ' '
  time
  let _ ← Parse.option zone

/- A date, a time, or both. -/
def moment : Parse Value := do
  (date *> (Parse.option timeOfDate *> pure ())) <|> time
  return .moment

end Toml

end Courier
