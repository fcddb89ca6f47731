/-
  Byte strings as lists of octets, with the two forms in
  which a whole number or a byte string is written
  elsewhere: four octets, most significant first, and pairs
  of hexadecimal digits.

  Key definitions include:
    * `Bytes`
    * `Bytes.ofWord`
    * `Bytes.toWord`
    * `Bytes.toHex`
    * `Bytes.ofHex?`

  Key theorems include:
    * `Bytes.length_ofWord`
    * `Bytes.toWord_ofWord`
    * `Bytes.ofWord_toWord`
-/

------------------------------------------------------------
-- Byte Strings
------------------------------------------------------------

namespace Courier

/- A byte string. -/
abbrev Bytes := List UInt8

namespace Bytes

/- The UTF-8 form of a text. -/
def ofText
    (text : String) : Bytes :=
  text.toUTF8.toList

end Bytes

end Courier

------------------------------------------------------------
-- Four-Octet Words
------------------------------------------------------------

namespace Courier

namespace Bytes

/-
  The four octets of a number below `2 ^ 32`, most
  significant first.  Higher bits are dropped.
-/
def ofWord
    (n : Nat) : Bytes :=
  [UInt8.ofNat (n / 16777216),
    UInt8.ofNat (n / 65536),
    UInt8.ofNat (n / 256),
    UInt8.ofNat n]

/- The number that a list of octets spells in base 256. -/
def toWord
    (bytes : Bytes) : Nat :=
  bytes.foldl (fun n b => n * 256 + b.toNat) 0

/- A number as a given count of octets, the lowest first. -/
def ofNumberReversed
    (count n : Nat) : Bytes :=
  (List.range count).map fun i =>
    UInt8.ofNat (n / Nat.pow 256 i)

/- A number as a given count of octets, the highest first. -/
def ofNumber
    (count n : Nat) : Bytes :=
  (ofNumberReversed count n).reverse

/- A word takes four octets. -/
theorem length_ofWord
    (n : Nat) :
    (ofWord n).length = 4 :=
  rfl

/- Numbers below `2 ^ 32` are read back unchanged. -/
theorem toWord_ofWord
    {n : Nat}
    (hLt : n < 4294967296) :
    toWord (ofWord n) = n := by
  simp only [ofWord, toWord, List.foldl_cons,
    List.foldl_nil, UInt8.toNat_ofNat']
  omega

/- Four octets are those of the number that they spell. -/
theorem ofWord_toWord
    {word : Bytes}
    (hLength : word.length = 4) :
    toWord word < 4294967296 ∧ ofWord (toWord word) = word := by
  match word, hLength with
  | [a, b, c, d], _ =>
      have hA := a.toNat_lt
      have hB := b.toNat_lt
      have hC := c.toNat_lt
      have hD := d.toNat_lt
      have hOctet {x : UInt8} {n : Nat}
          (hEq : n % 256 = x.toNat) :
          UInt8.ofNat n = x := by
        rw [← UInt8.toNat_inj, UInt8.toNat_ofNat', ← hEq]
      simp only [toWord, List.foldl_cons, List.foldl_nil]
      refine ⟨by omega, ?_⟩
      rw [ofWord, hOctet (x := a) (by omega),
        hOctet (x := b) (by omega),
        hOctet (x := c) (by omega),
        hOctet (x := d) (by omega)]

end Bytes

end Courier

------------------------------------------------------------
-- Hexadecimal Digits
------------------------------------------------------------

namespace Courier

namespace Bytes

/- The lower-case digit of a value below sixteen. -/
def hexDigit
    (n : Nat) : Char :=
  Char.ofNat (if n < 10 then 48 + n else 87 + n)

/- The value of a hexadecimal digit of either case. -/
def hexValue?
    (c : Char) : Option Nat :=
  if '0' ≤ c ∧ c ≤ '9' then
    some (c.toNat - 48)
  else if 'a' ≤ c ∧ c ≤ 'f' then
    some (c.toNat - 87)
  else if 'A' ≤ c ∧ c ≤ 'F' then
    some (c.toNat - 55)
  else
    none

/- Two digits for each octet. -/
def toHex
    (bytes : Bytes) : String :=
  String.ofList
    (bytes.flatMap fun b =>
      [hexDigit (b.toNat / 16), hexDigit (b.toNat % 16)])

/-
  Read pairs of digits, collecting the octets in reverse.
  An odd digit at the end or a foreign character is refused.
-/
def readHex
    (octets : Bytes) : List Char → Option Bytes
  | [] => some octets.reverse
  | [_] => none
  | high :: low :: rest =>
      match hexValue? high, hexValue? low with
      | some h, some l =>
          readHex (UInt8.ofNat (h * 16 + l) :: octets) rest
      | _, _ => none

/- The byte string that a text of digit pairs spells. -/
def ofHex?
    (text : String) : Option Bytes :=
  readHex [] text.toList

end Bytes

end Courier
