import Courier.Toml.Number

/-
  The statements of TOML text: headers of tables, and names
  with values.

  Key definitions include:
    * `Toml.Statement`
    * `Toml.value`
    * `Toml.statements?`
-/

------------------------------------------------------------
-- Statements
------------------------------------------------------------

namespace Courier

namespace Toml

/- A value in braces, before its names are resolved. -/
inductive Literal where
| scalar : Value → Literal
| list : List Literal → Literal
| table : List (List String × Literal) → Literal
deriving Repr

instance : Inhabited Literal :=
  ⟨.scalar .null⟩

/- A line that says something. -/
inductive Statement where
| table : (path : List String) → Statement
| item : (path : List String) → Statement
| entry : (path : List String) → Literal → Statement
deriving Repr

end Toml

end Courier

------------------------------------------------------------
-- Values
------------------------------------------------------------

namespace Courier

namespace Toml

/- One of the two truth values. -/
def flag : Parse Value :=
  (Parse.exactly "true" *> pure (.flag true)) <|>
    (Parse.exactly "false" *> pure (.flag false))

/- A value without parts. -/
def scalar : Parse Value :=
  (Value.text <$> text) <|> moment <|> fraction <|> integer <|>
    flag

/- Values in brackets, the last one with a comma or not. -/
def list
    (item : Parse Literal) : Parse Literal := do
  Parse.exactly "["
  let items ← Parse.option
    (Parse.separated (Parse.exactly ",")
      (gap *> item <* gap))
  if items.isSome then
    let _ ← Parse.option (Parse.exactly ",")
  gap
  Parse.exactly "]"
  return .list (items.getD [])

/- A name with its value. -/
def entry
    (item : Parse Literal) :
    Parse (List String × Literal) := do
  let names ← path
  blanks
  Parse.exactly "="
  blanks
  let value ← item
  return (names, value)

/- Names with values in braces, all in one line. -/
def braces
    (item : Parse Literal) : Parse Literal := do
  Parse.exactly "\x7b"
  blanks
  let entries ← Parse.option
    (Parse.separated (Parse.exactly "," *> blanks)
      (entry item <* blanks))
  Parse.exactly "\x7d"
  return .table (entries.getD [])

/- The most lists and tables that may be inside each other. -/
def maxLevels : Nat := 79

/- A value with at most the given levels of parts. -/
def value : Nat → Parse Literal
  | 0 => Literal.scalar <$> scalar
  | levels + 1 =>
      (Literal.scalar <$> scalar) <|> list (value levels) <|>
        braces (value levels)

end Toml

end Courier

------------------------------------------------------------
-- Texts
------------------------------------------------------------

namespace Courier

namespace Toml

/- A path in brackets. -/
def header
    (before after : String) : Parse (List String) := do
  Parse.exactly before
  blanks
  let names ← path
  blanks
  Parse.exactly after
  return names

/- A statement. -/
def statement : Parse Statement := do
  if ← Parse.sees "[[" then
    Statement.item <$> header "[[" "]]"
  else if ← Parse.sees "[" then
    Statement.table <$> header "[" "]"
  else
    let (names, literal) ← entry (value maxLevels)
    return .entry names literal

/- A line with or without a statement and a comment. -/
def line : Parse (Option Statement) := do
  blanks
  let said ← Parse.option statement
  blanks
  let _ ← Parse.option comment
  return said

/- The statements of a text. -/
def statements?
    (input : List Char) : Option (List Statement) :=
  let rest :=
    match input with
    | '\ufeff' :: rest => rest
    | chars => chars
  (Parse.whole? (Parse.separated newline line) rest).map fun
    lines => lines.filterMap id

end Toml

end Courier
