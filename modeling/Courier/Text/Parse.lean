/-
  Readers of text: a reader takes characters from the front
  of the input and returns what they spell, or fails.

  Key definitions include:
    * `Parse`
    * `Parse.satisfy`
    * `Parse.exactly`
    * `Parse.takeWhile`
    * `Parse.many`
    * `Parse.separated`
    * `Parse.whole?`
-/

------------------------------------------------------------
-- Readers
------------------------------------------------------------

namespace Courier

/- A reader, which leaves the rest of the input. -/
abbrev Parse := StateT (List Char) Option

namespace Parse

/- The next character, absent at the end. -/
def peek : Parse (Option Char) :=
  fun input => some (input.head?, input)

/- The next characters are the given ones. -/
def sees
    (text : String) : Parse Bool :=
  fun input => some (text.toList.isPrefixOf input, input)

/- Nothing is left. -/
def finish : Parse Unit :=
  fun input => if input.isEmpty then some ((), []) else none

/- A character of a class. -/
def satisfy
    (isGood : Char → Bool) : Parse Char
  | c :: rest => if isGood c then some (c, rest) else none
  | [] => none

/- The given characters. -/
def exactly
    (text : String) : Parse Unit :=
  fun input =>
    if text.toList.isPrefixOf input then
      some ((), input.drop text.length)
    else none

/- All characters of a class that come next. -/
def takeWhile
    (isGood : Char → Bool) : Parse (List Char) :=
  fun input =>
    some (input.takeWhile isGood, input.dropWhile isGood)

/- Some characters of a class, one at least. -/
def takeWhile1
    (isGood : Char → Bool) : Parse (List Char) := do
  let first ← satisfy isGood
  let rest ← takeWhile isGood
  return first :: rest

/- A number of characters of a class. -/
def count
    (isGood : Char → Bool) : Nat → Parse (List Char)
  | 0 => return []
  | n + 1 => do
      let first ← satisfy isGood
      let rest ← count isGood n
      return first :: rest

/- What a reader reads, if it does not fail. -/
def option
    {α : Type}
    (p : Parse α) : Parse (Option α) :=
  (some <$> p) <|> pure none

end Parse

end Courier

------------------------------------------------------------
-- Repetition
------------------------------------------------------------

namespace Courier

namespace Parse

/- Read as long as that takes something from the input. -/
def manyFrom
    {α : Type}
    (p : Parse α)
    (input : List Char) : List α × List Char :=
  match p input with
  | none => ([], input)
  | some (item, rest) =>
      if rest.length < input.length then
        let (items, last) := manyFrom p rest
        (item :: items, last)
      else
        ([], input)
  termination_by input.length

/- As many as there are. -/
def many
    {α : Type}
    (p : Parse α) : Parse (List α) :=
  fun input => some (manyFrom p input)

/- Items with a divider between any two of them. -/
def separated
    {α : Type}
    (divider : Parse Unit)
    (item : Parse α) : Parse (List α) := do
  let first ← item
  let rest ← many (divider *> item)
  return first :: rest

/- What a reader reads from the whole of a text. -/
def whole?
    {α : Type}
    (p : Parse α)
    (input : List Char) : Option α :=
  match (p <* finish) input with
  | some (item, _) => some item
  | none => none

end Parse

end Courier
