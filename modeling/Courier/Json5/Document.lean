import Courier.Json5.Number
import Courier.Text.Letter

/-
  JSON5 text: JSON with comments, names and texts in a freer
  form, and commas after the last item.

  Texts and numbers are taken for what they look like first.
  What they stand for may be nothing, and matters only where
  a setting is read from them.

  Key definitions include:
    * `Json5.gap`
    * `Json5.Piece`
    * `Json5.joined?`
    * `Json5.text`
    * `Json5.name`
    * `Json5.value`
    * `Json5.read?`
-/

------------------------------------------------------------
-- Blanks and Comments
------------------------------------------------------------

namespace Courier

namespace Json5

/- The end of a line. -/
def isLineEnd
    (c : Char) : Bool :=
  let n := c.toNat
  n == 10 || n == 13 || n == 0x2028 || n == 0x2029

/- A blank between two parts of the text. -/
def isBlank
    (c : Char) : Bool :=
  let n := c.toNat
  n == 9 || n == 11 || n == 12 || n == 32 || n == 0xA0 ||
    n == 0xFEFF || n == 0x1680 ||
    (0x2000 ≤ n && n ≤ 0x200A) || n == 0x202F ||
    n == 0x205F || n == 0x3000 || isLineEnd c

/- The rest of a comment of several lines. -/
def closeComment : List Char → Option (Unit × List Char)
  | '*' :: '/' :: rest => some ((), rest)
  | _ :: rest => closeComment rest
  | [] => none

/- A comment. -/
def comment : Parse Unit := do
  if ← Parse.sees "/*" then
    Parse.exactly "/*"
    closeComment
  else
    Parse.exactly "//"
    let _ ← Parse.takeWhile fun c => !isLineEnd c

/- What may stand between two parts of the text. -/
def gap : Parse Unit := do
  let _ ← Parse.many
    ((Parse.takeWhile1 isBlank *> pure ()) <|> comment)

/- A mark with gaps around it. -/
def mark
    (text : String) : Parse Unit :=
  gap *> Parse.exactly text <* gap

end Json5

end Courier

------------------------------------------------------------
-- Texts
------------------------------------------------------------

namespace Courier

namespace Json5

/-
  A piece of a text: a character, or a code of sixteen bits,
  which may be half of a character.
-/
inductive Piece where
| whole : Char → Piece
| coded : Nat → Piece
deriving DecidableEq, Repr

/- The code is the first half of a character. -/
def isFirstHalf
    (n : Nat) : Bool :=
  0xD800 ≤ n && n < 0xDC00

/- The code is the second half of a character. -/
def isSecondHalf
    (n : Nat) : Bool :=
  0xDC00 ≤ n && n < 0xE000

/-
  The character of two halves.  The bits of both are laid
  over each other, and so is the bit that lies beyond the
  first plane.
-/
def ofHalves
    (first second : Nat) : Char :=
  Char.ofNat
    (((first - 0xD800) * 0x400) |||
      (second - 0xDC00 + 0x10000))

/- The characters of pieces, unless half of one is alone. -/
def joined? : List Piece → Option (List Char)
  | [] => some []
  | .whole c :: rest => (joined? rest).map (c :: ·)
  | .coded n :: .coded m :: rest =>
      if isFirstHalf n then
        if isSecondHalf m then
          (joined? rest).map (ofHalves n m :: ·)
        else none
      else if isSecondHalf n then none
      else
        (joined? (.coded m :: rest)).map (Char.ofNat n :: ·)
  | .coded n :: rest =>
      if isFirstHalf n || isSecondHalf n then none
      else (joined? rest).map (Char.ofNat n :: ·)

/- A code as four digits. -/
def coded : Parse (List Piece) := do
  Parse.exactly "\\u"
  return [.coded (hexValue (← Parse.count isHexDigit 4))]

/- What a backslash at the end of a line stands for. -/
def joined : Parse (List Piece) := do
  Parse.exactly "\\"
  Parse.exactly "\r\n" <|>
    (Parse.satisfy isLineEnd *> pure ())
  return []

/- The character for a backslash before another one. -/
def escape : Parse (List Piece) := do
  Parse.exactly "\\"
  match ← Parse.satisfy fun c => !isLineEnd c with
  | 'b' => return [.whole (Char.ofNat 8)]
  | 'f' => return [.whole (Char.ofNat 12)]
  | 'n' => return [.whole '\n']
  | 'r' => return [.whole '\r']
  | 't' => return [.whole '\t']
  | 'v' => return [.whole (Char.ofNat 11)]
  | '0' => return [.whole (Char.ofNat 0)]
  | 'x' =>
      let code := hexValue (← Parse.count isHexDigit 2)
      return [.whole (Char.ofNat code)]
  | c =>
      if c == 'u' || c.isDigit then failure
      else return [.whole c]

/- A character that stands for itself. -/
def plain
    (quote : Char) : Parse (List Piece) := do
  let c ← Parse.satisfy fun c =>
    c != quote && c != '\\' && !isLineEnd c
  return [.whole c]

/- A text between quotation marks of one kind. -/
def quoted
    (quote : Char) : Parse (List Piece) := do
  let _ ← Parse.satisfy (· == quote)
  let pieces ← Parse.many
    (plain quote <|> coded <|> escape <|> joined)
  let _ ← Parse.satisfy (· == quote)
  return pieces.flatten

/- A text. -/
def text : Parse (List Piece) :=
  quoted '"' <|> quoted '\''

/- The first character of a name. -/
def nameStart : Parse (List Piece) :=
  (do
    let c ← Parse.satisfy fun c =>
      Letter.isLetter c || c == '$' || c == '_'
    return [.whole c]) <|> coded

/- A further character of a name. -/
def nameMore : Parse (List Piece) :=
  nameStart <|> do
    let c ← Parse.satisfy fun c =>
      Letter.isFollower c || c.toNat == 0x200C ||
        c.toNat == 0x200D
    return [.whole c]

/- The name of a member. -/
def name : Parse (List Piece) :=
  text <|> do
    let first ← nameStart
    let rest ← Parse.many nameMore
    return first ++ rest.flatten

end Json5

end Courier

------------------------------------------------------------
-- Values
------------------------------------------------------------

namespace Courier

namespace Json5

/- The text of pieces, if they stand for one. -/
def textOf?
    (pieces : List Piece) : Option String :=
  (joined? pieces).map String.ofList

/- The value of pieces. -/
def ofText
    (pieces : List Piece) : Value :=
  ((textOf? pieces).map Value.text).getD .broken

/- The value of a number, if it stands for one. -/
def ofNumber
    (number : Option Quantity) : Value :=
  (number.map Value.number).getD .broken

/- A value without parts. -/
def scalar : Parse Value :=
  (Parse.exactly "null" *> pure .null) <|>
    (Parse.exactly "true" *> pure (.flag true)) <|>
    (Parse.exactly "false" *> pure (.flag false)) <|>
    (ofText <$> text) <|> (ofNumber <$> number)

/- Items between two marks, the last with a comma or not. -/
def enclosed
    {α : Type}
    (before after : String)
    (item : Parse α) : Parse (List α) := do
  Parse.exactly before
  gap
  let items ← Parse.option
    (Parse.separated (mark ",") item)
  if items.isSome then
    let _ ← Parse.option (mark ",")
  gap
  Parse.exactly after
  return items.getD []

/-
  A member of an object.  One whose name stands for nothing
  has no name, and what it says stands for nothing, too.
-/
def member
    (value : Parse Value) : Parse (String × Value) := do
  let pieces ← name
  mark ":"
  let v ← value
  return match textOf? pieces with
    | some n => (n, v)
    | none => ("", .broken)

/- A value with at most the given levels of parts. -/
def value : Nat → Parse Value
  | 0 => scalar
  | levels + 1 =>
      scalar <|>
        (Value.list <$> enclosed "[" "]" (value levels)) <|>
        (Value.table <$>
          enclosed "\x7b" "\x7d" (member (value levels)))

/- The value that a text spells. -/
def read?
    (input : List Char) : Option Value :=
  Parse.whole? (gap *> value input.length <* gap) input

end Json5

end Courier
