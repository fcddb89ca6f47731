/-
  Blank characters and the removal of those at the ends of a
  text.

  Key definitions include:
    * `Blank.isBlank`
    * `Blank.trim`
    * `Blank.trimText`
-/

------------------------------------------------------------
-- Blank Characters
------------------------------------------------------------

namespace Courier

namespace Blank

/- The characters with the Unicode property `White_Space`. -/
def isBlank
    (c : Char) : Bool :=
  let n := c.toNat
  (9 ≤ n && n ≤ 13) || n == 32 || n == 0x85 || n == 0xA0 ||
    n == 0x1680 || (0x2000 ≤ n && n ≤ 0x200A) ||
    n == 0x2028 || n == 0x2029 || n == 0x202F ||
    n == 0x205F || n == 0x3000

end Blank

end Courier

------------------------------------------------------------
-- Trimming
------------------------------------------------------------

namespace Courier

namespace Blank

/- Drop the blanks at the end. -/
def trimEnd
    (chars : List Char) : List Char :=
  (chars.reverse.dropWhile isBlank).reverse

/- Drop the blanks at both ends. -/
def trim
    (chars : List Char) : List Char :=
  trimEnd (chars.dropWhile isBlank)

/- Drop the blanks at both ends of a text. -/
def trimText
    (text : String) : String :=
  String.ofList (trim text.toList)

end Blank

end Courier
