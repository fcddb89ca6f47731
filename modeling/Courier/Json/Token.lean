import Courier.Number.Decimal
import Courier.Bytes

/-
  The tokens of JSON text.

  The scanner looks at one character at a time, so that
  scanning is a fold over the text.  A text between
  quotation marks is sound if its escapes spell characters;
  escapes that spell half a character leave the text
  unsound, which is a fault only where the text is used.

  Key definitions include:
    * `Json.Token`
    * `Json.Scan`
    * `Json.scanStep`
    * `Json.tokens?`
-/

------------------------------------------------------------
-- Tokens
------------------------------------------------------------

namespace Courier

namespace Json

/-
  A token.  A text is absent if it is unsound.
-/
inductive Token where
| openArray : Token
| closeArray : Token
| openObject : Token
| closeObject : Token
| comma : Token
| colon : Token
| null : Token
| bool : Bool → Token
| number : Decimal → Token
| text : Option String → Token
deriving DecidableEq, Repr

end Json

end Courier

------------------------------------------------------------
-- Scanner States
------------------------------------------------------------

namespace Courier

namespace Json

/- Where in a number the scanner is. -/
inductive Place where
| sign : Place
| zero : Place
| whole : Place
| point : Place
| fraction : Place
| mark : Place
| powerSign : Place
| power : Place
deriving DecidableEq, Repr

/- A number so far, with each group of digits reversed. -/
structure Digits where
  negative : Bool
  whole : List Char
  fraction : List Char
  down : Bool
  power : List Char
deriving DecidableEq, Repr

/-
  A text so far, reversed.  `half` is the first half of a
  character whose second half must follow.
-/
structure Quotation where
  chars : List Char
  sound : Bool
  half : Option Nat
deriving DecidableEq, Repr

/- What the scanner is in the middle of. -/
inductive Scan where
| between : Scan
| word : (left : List Char) → (token : Token) → Scan
| number : Place → Digits → Scan
| text : Quotation → Scan
| escape : Quotation → Scan
| unit : Quotation → (digits value : Nat) → Scan
deriving DecidableEq, Repr

end Json

end Courier

------------------------------------------------------------
-- Texts
------------------------------------------------------------

namespace Courier

namespace Json

/- An empty text. -/
def Quotation.empty : Quotation :=
  { chars := [], sound := true, half := none }

/- Add a character.  A half before it stays without its other. -/
def Quotation.push
    (q : Quotation)
    (c : Char) : Quotation :=
  { chars := c :: q.chars
    sound := q.sound && q.half.isNone
    half := none }

/-
  Add a unit of sixteen bits, which is a character, the
  first half of one, or the second half of one.
-/
def Quotation.pushUnit
    (q : Quotation)
    (unit : Nat) : Quotation :=
  if 0xDC00 ≤ unit ∧ unit < 0xE000 then
    match q.half with
    | some first =>
        { chars :=
            Char.ofNat
              (0x10000 + (first - 0xD800) * 1024 +
                (unit - 0xDC00)) :: q.chars
          sound := q.sound
          half := none }
    | none => { q with sound := false }
  else if 0xD800 ≤ unit ∧ unit < 0xDC00 then
    { chars := q.chars
      sound := q.sound && q.half.isNone
      half := some unit }
  else
    q.push (Char.ofNat unit)

/- The token of a finished text. -/
def Quotation.token
    (q : Quotation) : Token :=
  .text
    (if q.sound && q.half.isNone then
      some (String.ofList q.chars.reverse)
    else
      none)

end Json

end Courier

------------------------------------------------------------
-- Numbers
------------------------------------------------------------

namespace Courier

namespace Json

/- The number that starts with a minus sign or a digit. -/
def Digits.start
    (c : Char) : Place × Digits :=
  let none : Digits :=
    { negative := c == '-'
      whole := []
      fraction := []
      down := false
      power := [] }
  if c = '-' then (.sign, none)
  else if c = '0' then (.zero, { none with whole := [c] })
  else (.whole, { none with whole := [c] })

/-
  Go on with a number.  The outer option is absent for a
  fault, the inner one if the number ends before the
  character.
-/
def Digits.step
    (place : Place)
    (d : Digits)
    (c : Char) : Option (Option (Place × Digits)) :=
  let isDigit := Numeral.isDigit c
  match place with
  | .sign =>
      if c = '0' then
        some (some (.zero, { d with whole := [c] }))
      else if isDigit then
        some (some (.whole, { d with whole := [c] }))
      else none
  | .zero =>
      if isDigit then none
      else if c = '.' then some (some (.point, d))
      else if c = 'e' ∨ c = 'E' then some (some (.mark, d))
      else some none
  | .whole =>
      if isDigit then
        some (some (.whole, { d with whole := c :: d.whole }))
      else if c = '.' then some (some (.point, d))
      else if c = 'e' ∨ c = 'E' then some (some (.mark, d))
      else some none
  | .point =>
      if isDigit then
        some (some (.fraction, { d with fraction := [c] }))
      else none
  | .fraction =>
      if isDigit then
        some
          (some
            (.fraction, { d with fraction := c :: d.fraction }))
      else if c = 'e' ∨ c = 'E' then some (some (.mark, d))
      else some none
  | .mark =>
      if isDigit then
        some (some (.power, { d with power := [c] }))
      else if c = '+' then some (some (.powerSign, d))
      else if c = '-' then
        some (some (.powerSign, { d with down := true }))
      else none
  | .powerSign =>
      if isDigit then
        some (some (.power, { d with power := [c] }))
      else none
  | .power =>
      if isDigit then
        some (some (.power, { d with power := c :: d.power }))
      else some none

/- The number of the digits, if it may end here. -/
def Digits.token?
    (place : Place)
    (d : Digits) : Option Token :=
  let decimal : Decimal :=
    { negative := d.negative
      whole := d.whole.reverse
      fraction := d.fraction.reverse
      power :=
        if d.power.isEmpty then none
        else some (d.down, d.power.reverse) }
  match place with
  | .zero | .whole | .fraction | .power =>
      some (.number decimal)
  | _ => none

end Json

end Courier

------------------------------------------------------------
-- Scanning
------------------------------------------------------------

namespace Courier

namespace Json

/- The tokens so far, reversed, and the scanner's place. -/
structure Scanned where
  tokens : List Token
  scan : Scan
deriving DecidableEq, Repr

/- The blanks that may stand between tokens. -/
def isBlank
    (c : Char) : Bool :=
  c == ' ' || c == '\n' || c == '\t' || c == '\r'

/- Start a token. -/
def startToken?
    (tokens : List Token)
    (c : Char) : Option Scanned :=
  let whole (t : Token) : Option Scanned :=
    some { tokens := t :: tokens, scan := .between }
  let begin (s : Scan) : Option Scanned :=
    some { tokens := tokens, scan := s }
  if isBlank c then begin .between
  else if c = '[' then whole .openArray
  else if c = ']' then whole .closeArray
  else if c = '\x7b' then whole .openObject
  else if c = '\x7d' then whole .closeObject
  else if c = ',' then whole .comma
  else if c = ':' then whole .colon
  else if c = '"' then begin (.text .empty)
  else if c = 'n' then begin (.word ['u', 'l', 'l'] .null)
  else if c = 't' then
    begin (.word ['r', 'u', 'e'] (.bool true))
  else if c = 'f' then
    begin (.word ['a', 'l', 's', 'e'] (.bool false))
  else if c = '-' ∨ Numeral.isDigit c then
    let (place, d) := Digits.start c
    begin (.number place d)
  else none

/- The character that a letter after a backslash stands for. -/
def escaped?
    (c : Char) : Option Char :=
  if c = '"' ∨ c = '\\' ∨ c = '/' then some c
  else if c = 'b' then some '\x08'
  else if c = 'f' then some '\x0c'
  else if c = 'n' then some '\n'
  else if c = 'r' then some '\r'
  else if c = 't' then some '\t'
  else none

/- Take one more character. -/
def scanStep
    (s : Scanned)
    (c : Char) : Option Scanned :=
  match s.scan with
  | .between => startToken? s.tokens c
  | .word left token =>
      match left with
      | [last] =>
          if c = last then
            some
              { tokens := token :: s.tokens, scan := .between }
          else none
      | next :: rest =>
          if c = next then
            some { s with scan := .word rest token }
          else none
      | [] => none
  | .number place d =>
      match Digits.step place d c with
      | none => none
      | some (some (place', d')) =>
          some { s with scan := .number place' d' }
      | some none =>
          match Digits.token? place d with
          | some token => startToken? (token :: s.tokens) c
          | none => none
  | .text q =>
      if c = '"' then
        some
          { tokens := q.token :: s.tokens, scan := .between }
      else if c = '\\' then
        some { s with scan := .escape q }
      else if c.toNat < 32 then none
      else some { s with scan := .text (q.push c) }
  | .escape q =>
      if c = 'u' then
        some { s with scan := .unit q 0 0 }
      else
        match escaped? c with
        | some c' => some { s with scan := .text (q.push c') }
        | none => none
  | .unit q digits value =>
      match Bytes.hexValue? c with
      | none => none
      | some n =>
          let value' := value * 16 + n
          if digits = 3 then
            some { s with scan := .text (q.pushUnit value') }
          else
            some { s with scan := .unit q (digits + 1) value' }

/- The tokens of a text, if it can be cut into tokens. -/
def tokens?
    (chars : List Char) : Option (List Token) :=
  match chars.foldlM scanStep ⟨[], .between⟩ with
  | none => none
  | some s =>
      match s.scan with
      | .between => some s.tokens.reverse
      | .number place d =>
          (Digits.token? place d).map fun token =>
            (token :: s.tokens).reverse
      | _ => none

end Json

end Courier
