import Courier.Text.Printable

/-
  Text in quotation marks, as messages show the text that
  they complain about.

  Quotation marks and backslashes are escaped, four controls
  have a letter of their own, and every other character that
  is not shown as itself becomes its code point in braces.

  Key definitions include:
    * `Quoted.escape`
    * `Quoted.quote`
-/

------------------------------------------------------------
-- Escapes
------------------------------------------------------------

namespace Courier

namespace Quoted

/- The form of one character between quotation marks. -/
def escape
    (c : Char) : List Char :=
  if c = '"' then ['\\', '"']
  else if c = '\\' then ['\\', '\\']
  else if c = '\n' then ['\\', 'n']
  else if c = '\r' then ['\\', 'r']
  else if c = '\t' then ['\\', 't']
  else if c.toNat = 0 then ['\\', '0']
  else if Printable.isShown c then [c]
  else
    ['\\', 'u', '\x7b'] ++ Nat.toDigits 16 c.toNat ++ ['\x7d']

/- A text between quotation marks. -/
def quote
    (text : String) : String :=
  String.ofList ('"' :: text.toList.flatMap escape ++ ['"'])

end Quoted

end Courier
