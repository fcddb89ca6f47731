import Courier.Text.Numeral
import Courier.Text.Parse

/-
  Names and quoted texts of TOML.

  Key definitions include:
    * `Toml.newline`
    * `Toml.comment`
    * `Toml.text`
    * `Toml.name`
    * `Toml.path`
-/

------------------------------------------------------------
-- Characters
------------------------------------------------------------

namespace Courier

namespace Toml

/- A blank inside a line. -/
def isBlank
    (c : Char) : Bool :=
  c == ' ' || c == '\t'

/- A character that may stand in a comment. -/
def isShown
    (c : Char) : Bool :=
  c == '\t' || (32 ≤ c.toNat && c.toNat != 127)

/- A character of a name without quotation marks. -/
def isNameChar
    (c : Char) : Bool :=
  c.isAlphanum || c == '_' || c == '-'

/- A digit of a number in base sixteen. -/
def isHexDigit
    (c : Char) : Bool :=
  c.isDigit || ('a' ≤ c && c ≤ 'f') || ('A' ≤ c && c ≤ 'F')

/- The blanks that come next. -/
def blanks : Parse Unit := do
  let _ ← Parse.takeWhile isBlank

/- The end of a line. -/
def newline : Parse Unit :=
  Parse.exactly "\n" <|> Parse.exactly "\r\n"

/- A comment, up to the end of the line. -/
def comment : Parse Unit := do
  Parse.exactly "#"
  let _ ← Parse.takeWhile isShown

/- Blanks, comments and ends of lines. -/
def gap : Parse Unit := do
  let _ ← Parse.many do
    blanks
    let _ ← Parse.option comment
    newline
  blanks
  let _ ← Parse.option comment

end Toml

end Courier

------------------------------------------------------------
-- Quoted Texts
------------------------------------------------------------

namespace Courier

namespace Toml

/- The value of digits in base sixteen. -/
def hexValue
    (digits : List Char) : Nat :=
  digits.foldl
    (fun n c =>
      n * 16 +
        (if c.isDigit then c.toNat - 48
        else c.toLower.toNat - 87))
    0

/- The character with the code that some digits spell. -/
def coded
    (digits : Nat) : Parse (List Char) := do
  let n := hexValue (← Parse.count isHexDigit digits)
  if n.isValidChar then return [Char.ofNat n]
  else failure

/- What a backslash stands for. -/
def escape : Parse (List Char) := do
  Parse.exactly "\\"
  match ← Parse.satisfy fun _ => true with
  | 'b' => return [Char.ofNat 8]
  | 't' => return ['\t']
  | 'n' => return ['\n']
  | 'f' => return [Char.ofNat 12]
  | 'r' => return ['\r']
  | '"' => return ['"']
  | '\\' => return ['\\']
  | 'u' => coded 4
  | 'U' => coded 8
  | _ => failure

/- A backslash at the end of a line, and the blanks after. -/
def joined : Parse (List Char) := do
  Parse.exactly "\\"
  blanks
  newline
  let _ ← Parse.many do
    let _ ← Parse.takeWhile isBlank
    newline
  blanks
  return []

/- A character between quotation marks. -/
def plain
    (quote : Char) : Parse (List Char) := do
  let c ← Parse.satisfy fun c =>
    isShown c && c != quote && (quote == '\'' || c != '\\')
  return [c]

/- Quotation marks. -/
def marks
    (quote : Char)
    (n : Nat) : String :=
  String.ofList (List.replicate n quote)

/- One quotation mark, or two, with something after. -/
def innerQuotes
    (quote : Char) : Parse (List Char) := do
  if ← Parse.sees (marks quote 3) then failure
  else Parse.takeWhile1 (· == quote)

/- Quotation marks right before the three that end a text. -/
def lastQuotes
    (quote : Char) : Parse (List Char) := do
  if ← Parse.sees (marks quote 5) then
    Parse.count (· == quote) 2
  else if ← Parse.sees (marks quote 4) then
    Parse.count (· == quote) 1
  else return []

/- A line break inside a text of several lines. -/
def brokenLine : Parse (List Char) := do
  newline
  return ['\n']

/- Text of several lines without a quotation mark. -/
def longPieces
    (quote : Char) : Parse (List Char) :=
  List.flatten <$> Parse.many
    (plain quote <|> brokenLine <|>
      (if quote == '"' then escape <|> joined else failure))

/- A text between triple quotation marks. -/
def longText
    (quote : Char) : Parse String := do
  Parse.exactly (marks quote 3)
  let _ ← Parse.option newline
  let first ← longPieces quote
  let more ← Parse.many do
    let quotes ← innerQuotes quote
    let rest ← longPieces quote
    return quotes ++ rest
  let last ← lastQuotes quote
  Parse.exactly (marks quote 3)
  return String.ofList (first ++ more.flatten ++ last)

/- A text between single quotation marks of its kind. -/
def shortText
    (quote : Char) : Parse String := do
  Parse.exactly (marks quote 1)
  let pieces ← Parse.many
    (plain quote <|>
      (if quote == '"' then escape else failure))
  Parse.exactly (marks quote 1)
  return String.ofList pieces.flatten

/- A quoted text. -/
def text : Parse String := do
  if ← Parse.sees "\"\"\"" then longText '"'
  else if ← Parse.sees "'''" then longText '\''
  else shortText '"' <|> shortText '\''

end Toml

end Courier

------------------------------------------------------------
-- Names
------------------------------------------------------------

namespace Courier

namespace Toml

/- A bare or quoted name. -/
def name : Parse String :=
  shortText '"' <|> shortText '\'' <|>
    (String.ofList <$> Parse.takeWhile1 isNameChar)

/- The most names that a path may have. -/
def maxPath : Nat := 79

/- Names with dots between them. -/
def path : Parse (List String) := do
  let names ← Parse.separated
    (blanks *> Parse.exactly "." *> blanks) name
  if names.length ≤ maxPath then return names
  else failure

end Toml

end Courier
