import Courier.Envelope.Error
import Courier.Json.Document
import Courier.Json.Printer
import Courier.Text.Base64
import Courier.Text.Blank
import Courier.Text.Numeral
import Courier.Text.Split

/-
  Envelopes as single lines: fields with a separator between
  them, and an attached object as the Base64 form of its
  JSON text in one more field.

  A field may hold neither the separator nor a line break.
  A line is cut at the leftmost separators, so a field that
  ends in the first part of a separator may be read back
  shorter than it was.

  Key definitions include:
    * `Line.hasSeparator`
    * `Line.join`
    * `Line.fields`
    * `Line.split`
    * `Line.optional`
    * `Line.length`
    * `Line.messageValue`
-/

------------------------------------------------------------
-- Writing
------------------------------------------------------------

namespace Courier

namespace Line

/- The characters between two fields. -/
def separator : List Char := ['#', '|', '#']

/- The separator stands somewhere in the characters. -/
def hasSeparator : List Char → Bool
  | '#' :: '|' :: '#' :: _ => true
  | _ :: rest => hasSeparator rest
  | [] => false

/- The characters that end a line. -/
def isLineBreak
    (c : Char) : Bool :=
  c == '\r' || c == '\n'

/- Refuse a field that would not stay one field. -/
def checkField
    (field : String) : Except ProtocolError Unit :=
  if hasSeparator field.toList then
    .error (.malformed (.separatorInField field))
  else if field.toList.any isLineBreak then
    .error (.malformed (.lineBreakInField field))
  else
    .ok ()

/- Refuse the first field that would not stay one field. -/
def checkFields : List String → Except ProtocolError Unit
  | [] => .ok ()
  | field :: rest =>
      match checkField field with
      | .ok () => checkFields rest
      | .error e => .error e

/- The field of an attached object. -/
def encodeObject
    (object : Json) : String :=
  Base64.encode (Utf8.encode object.chars)

/- The line of fields and an attached object. -/
def join
    (fields : List String)
    (object : Option Json) : Except ProtocolError String :=
  match checkFields fields with
  | .error e => .error e
  | .ok () =>
      .ok
        (String.ofList
          (List.intercalate separator
            (match object with
            | none => fields.map String.toList
            | some value =>
                fields.map String.toList ++
                  [(encodeObject value).toList])))

end Line

end Courier

------------------------------------------------------------
-- Reading
------------------------------------------------------------

namespace Courier

namespace Line

/-
  Cut at the leftmost separators.  The fields so far and the
  characters of the present field are reversed.
-/
def fieldsFrom
    (done : List (List Char))
    (field : List Char) : List Char → List (List Char)
  | '#' :: '|' :: '#' :: rest =>
      fieldsFrom (field.reverse :: done) [] rest
  | c :: rest => fieldsFrom done (c :: field) rest
  | [] => (field.reverse :: done).reverse

/- The fields of a line. -/
def fields
    (chars : List Char) : List (List Char) :=
  fieldsFrom [] [] chars

/- A line without the line breaks at its end. -/
def dropLineBreaks
    (chars : List Char) : List Char :=
  (chars.reverse.dropWhile isLineBreak).reverse

/- The object of a field, absent if the field is empty. -/
def decodeObject
    (field : List Char) :
    Except ProtocolError (Option Json) :=
  if field.isEmpty then
    .ok none
  else
    match Base64.decode (Utf8.encode field) with
    | .error fault => .error (.base64 fault.message)
    | .ok bytes =>
        match Utf8.decode bytes with
        | .error _ => .error .notJson
        | .ok chars =>
            match Json.read? chars with
            | some value => .ok (some value)
            | none => .error .notJson

/-
  The fields of a line that has the given number of them,
  and the object of one more field.
-/
def split
    (line : String)
    (count : Nat) :
    Except ProtocolError (List String × Option Json) :=
  let all := fields (dropLineBreaks line.toList)
  let texts := (all.take count).map String.ofList
  if all.length = count then
    .ok (texts, none)
  else if all.length = count + 1 then
    match decodeObject (all.drop count).flatten with
    | .ok object => .ok (texts, object)
    | .error e => .error e
  else
    .error (.malformed (.fieldCount count all.length))

/- A field whose absence is written as an empty text. -/
def optional
    (field : String) : Option String :=
  if field.isEmpty then none else some field

/- A length, zero if nothing is written. -/
def length
    (field : String) : Except ProtocolError UInt64 :=
  if field.isEmpty then
    .ok 0
  else
    match Numeral.natural64? field with
    | some n => .ok (UInt64.ofNat n)
    | none =>
        .error (.malformed (.notANumber "data length" field))

end Line

end Courier

------------------------------------------------------------
-- Values Inside a Field
------------------------------------------------------------

namespace Courier

namespace Line

/-
  The value of a key in text such as `key = value | other`:
  that of the first pair with the key, without the blanks
  around it.
-/
def messageValue
    (message key : String) : Option String :=
  let pairs :=
    (Split.pieces '|' message.toList).filterMap
      (Split.cut? '=')
  let found :=
    pairs.find? fun pair =>
      Blank.trim pair.1 == key.toList
  found.map fun pair => String.ofList (Blank.trim pair.2)

end Line

end Courier
