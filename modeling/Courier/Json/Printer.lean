import Courier.Json.Value
import Courier.Number.Shortest
import Courier.Bytes

/-
  The compact text of a JSON value: no blanks, members in
  the order of the value, and only those characters escaped
  that must be.

  Key definitions include:
    * `Json.escape`
    * `Json.quoted`
    * `Json.chars`
    * `Json.render`
    * `Json.renderMembers`
-/

------------------------------------------------------------
-- Texts
------------------------------------------------------------

namespace Courier

namespace Json

/- The form of one character between quotation marks. -/
def escape
    (c : Char) : List Char :=
  if c = '"' then ['\\', '"']
  else if c = '\\' then ['\\', '\\']
  else if c.toNat = 8 then ['\\', 'b']
  else if c.toNat = 12 then ['\\', 'f']
  else if c = '\n' then ['\\', 'n']
  else if c = '\r' then ['\\', 'r']
  else if c = '\t' then ['\\', 't']
  else if c.toNat < 32 then
    ['\\', 'u', '0', '0', Bytes.hexDigit (c.toNat / 16),
      Bytes.hexDigit (c.toNat % 16)]
  else [c]

/- A text between quotation marks. -/
def quoted
    (text : String) : List Char :=
  '"' :: text.toList.flatMap escape ++ ['"']

end Json

end Courier

------------------------------------------------------------
-- Values
------------------------------------------------------------

namespace Courier

namespace Json

/- The digits of a number. -/
def numberChars : Number → List Char
  | .whole n => (toString n).toList
  | .binary x => Shortest.render x

mutual

/- The characters of a value. -/
def chars : Json → List Char
  | .null => ['n', 'u', 'l', 'l']
  | .bool true => ['t', 'r', 'u', 'e']
  | .bool false => ['f', 'a', 'l', 's', 'e']
  | .number n => numberChars n
  | .text s => quoted s
  | .array items =>
      '[' :: List.intercalate [','] (itemChars items) ++ [']']
  | .object members =>
      '\x7b' ::
        List.intercalate [','] (memberChars members) ++
        ['\x7d']

/- The characters of each item. -/
def itemChars : List Json → List (List Char)
  | [] => []
  | item :: rest => chars item :: itemChars rest

/- The characters of each member. -/
def memberChars :
    List (String × Json) → List (List Char)
  | [] => []
  | (name, value) :: rest =>
      (quoted name ++ ':' :: chars value) :: memberChars rest

end

/- The compact text of a value. -/
def render
    (value : Json) : String :=
  String.ofList value.chars

/-
  The compact text of an object whose members keep the
  given order.
-/
def renderMembers
    (members : List (String × Json)) : String :=
  render (.object members)

end Json

end Courier
