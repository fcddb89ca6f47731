import Courier.Json.Token
import Courier.Json.Value

/-
  JSON text as a tree, before any number or text in it has
  been converted.

  A document is read from the tokens by a machine with a
  stack, one token at a time.  A document becomes a value if
  its texts are sound, its numbers are finite and it is not
  nested too deeply.  Parts of a document that nobody asks
  for are never converted, so they may break these rules.

  Key definitions include:
    * `Document`
    * `Document.Frame`
    * `Document.Expect`
    * `Document.step`
    * `Document.read?`
    * `Document.toJson?`
    * `Json.read?`
-/

------------------------------------------------------------
-- Documents
------------------------------------------------------------

namespace Courier

/- The tree of a JSON text. -/
inductive Document where
| null : Document
| bool : Bool → Document
| number : Decimal → Document
| text : Option String → Document
| array : List Document → Document
| object : List (Option String × Document) → Document
deriving Repr

end Courier

------------------------------------------------------------
-- The Machine
------------------------------------------------------------

namespace Courier

namespace Document

/-
  An open array or object.  Items and members are reversed;
  an object that waits for a value holds the name of it.
-/
inductive Frame where
| array : (items : List Document) → Frame
| object :
    (members : List (Option String × Document)) →
    (name : Option String) → Frame

/- What may come next. -/
inductive Expect where
| value : Expect
| valueOrClose : Expect
| commaOrClose : Expect
| name : Expect
| nameOrClose : Expect
| colon : Expect
| nothing : Document → Expect

/- The open frames, innermost first, and what may come. -/
structure Machine where
  frames : List Frame
  expect : Expect

/- A value is complete. -/
def Machine.complete
    (frames : List Frame)
    (d : Document) : Machine :=
  match frames with
  | [] => { frames := [], expect := .nothing d }
  | .array items :: rest =>
      { frames := .array (d :: items) :: rest
        expect := .commaOrClose }
  | .object members name :: rest =>
      { frames := .object ((name, d) :: members) none :: rest
        expect := .commaOrClose }

/- A value starts with the token. -/
def Machine.begin?
    (frames : List Frame) : Json.Token → Option Machine
  | .openArray =>
      some
        { frames := .array [] :: frames
          expect := .valueOrClose }
  | .openObject =>
      some
        { frames := .object [] none :: frames
          expect := .nameOrClose }
  | .null => some (complete frames .null)
  | .bool b => some (complete frames (.bool b))
  | .number d => some (complete frames (.number d))
  | .text s => some (complete frames (.text s))
  | _ => none

/- A frame ends with the token. -/
def Machine.close?
    (frames : List Frame)
    (token : Json.Token) : Option Machine :=
  match frames, token with
  | .array items :: rest, .closeArray =>
      some (complete rest (.array items.reverse))
  | .object members _ :: rest, .closeObject =>
      some (complete rest (.object members.reverse))
  | _, _ => none

/- Take one token. -/
def step
    (m : Machine)
    (token : Json.Token) : Option Machine :=
  match m.expect with
  | .nothing _ => none
  | .value => Machine.begin? m.frames token
  | .valueOrClose =>
      match Machine.close? m.frames token with
      | some m' => some m'
      | none => Machine.begin? m.frames token
  | .commaOrClose =>
      match token, m.frames with
      | .comma, .array _ :: _ =>
          some { m with expect := .value }
      | .comma, .object _ _ :: _ =>
          some { m with expect := .name }
      | _, _ => Machine.close? m.frames token
  | .name | .nameOrClose =>
      match token, m.frames, m.expect with
      | .text s, .object members _ :: rest, _ =>
          some
            { frames := .object members s :: rest
              expect := .colon }
      | _, _, .nameOrClose => Machine.close? m.frames token
      | _, _, _ => none
  | .colon =>
      match token with
      | .colon => some { m with expect := .value }
      | _ => none

/- The document of a text, if it is JSON. -/
def read?
    (chars : List Char) : Option Document :=
  match Json.tokens? chars with
  | none => none
  | some tokens =>
      match tokens.foldlM step ⟨[], .value⟩ with
      | some { frames := [], expect := .nothing d } => some d
      | _ => none

end Document

end Courier

------------------------------------------------------------
-- Conversion
------------------------------------------------------------

namespace Courier

namespace Document

/- The levels of arrays and objects that a value may have. -/
def levelBound : Nat := 127

mutual

/- The value of a document of at most the given levels. -/
def toJson?
    (levels : Nat) : Document → Option Json
  | .null => some .null
  | .bool b => some (.bool b)
  | .number d => d.toNumber?.map .number
  | .text s => s.map .text
  | .array items =>
      match levels with
      | 0 => none
      | levels + 1 =>
          (itemsToJson? levels items).map .array
  | .object members =>
      match levels with
      | 0 => none
      | levels + 1 =>
          (membersToJson? levels members).map Json.ofMembers

/- The values of the items of an array. -/
def itemsToJson?
    (levels : Nat) : List Document → Option (List Json)
  | [] => some []
  | item :: rest =>
      match toJson? levels item, itemsToJson? levels rest with
      | some value, some values => some (value :: values)
      | _, _ => none

/- The values of the members of an object. -/
def membersToJson?
    (levels : Nat) :
    List (Option String × Document) →
    Option (List (String × Json))
  | [] => some []
  | (name, item) :: rest =>
      match name, toJson? levels item,
          membersToJson? levels rest with
      | some name, some value, some values =>
          some ((name, value) :: values)
      | _, _, _ => none

end

end Document

/- The value of a JSON text, if it is one. -/
def Json.read?
    (chars : List Char) : Option Json :=
  (Document.read? chars).bind
    (Document.toJson? Document.levelBound)

end Courier
