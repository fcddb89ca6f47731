import Courier.Json.Document

/-
  Records in JSON: an object with known members, or an array
  of the members in their order.

  In an object unknown members are ignored, members may be
  missing, and no known member may come twice.  An array may
  end early but may not be longer than the record.

  Key definitions include:
    * `Record.members?`
    * `Record.text?`
    * `Record.word?`
    * `Record.optional?`
    * `Record.value?`
-/

------------------------------------------------------------
-- Members
------------------------------------------------------------

namespace Courier

namespace Record

/-
  Collect the member of one name.  The result is absent if
  there are two.
-/
def single?
    (name : String) :
    List (String × Document) → Option (Option Document)
  | [] => some none
  | (other, value) :: rest =>
      if other = name then
        if rest.any (·.1 == name) then none
        else some (some value)
      else
        single? name rest

/- The members of an object, if all names are sound. -/
def named? :
    List (Option String × Document) →
    Option (List (String × Document))
  | [] => some []
  | (name, value) :: rest =>
      match name, named? rest with
      | some name, some others => some ((name, value) :: others)
      | _, _ => none

/-
  The members of a record with the given names, in the order
  of the names.
-/
def members?
    (names : List String) :
    Document → Option (List (Option Document))
  | .array items =>
      if items.length ≤ names.length then
        some
          (items.map some ++
            List.replicate (names.length - items.length) none)
      else none
  | .object members =>
      match named? members with
      | some all => names.mapM fun name => single? name all
      | none => none
  | _ => none

end Record

end Courier

------------------------------------------------------------
-- Values
------------------------------------------------------------

namespace Courier

namespace Record

/- The levels that a member of a record may have. -/
def memberLevels : Nat := Document.levelBound - 1

/- A text. -/
def text? : Document → Option String
  | .text s => s
  | _ => none

/- A whole number that fits 64 bits without a sign. -/
def word? : Document → Option UInt64
  | .number d =>
      match d.toNumber? with
      | some (.whole n) =>
          if 0 ≤ n then some (UInt64.ofNat n.toNat) else none
      | _ => none
  | _ => none

/- A whole number of either sign. -/
def integer? : Document → Option Int
  | .number d =>
      match d.toNumber? with
      | some (.whole n) => some n
      | _ => none
  | _ => none

/- A value of any kind. -/
def value?
    (d : Document) : Option Json :=
  d.toJson? memberLevels

/- A member that must be there. -/
def required?
    {α : Type}
    (read : Document → Option α) :
    Option Document → Option α
  | some d => read d
  | none => none

/- A member that has a default. -/
def orDefault?
    {α : Type}
    (read : Document → Option α)
    (fallback : α) :
    Option Document → Option α
  | some d => read d
  | none => some fallback

/- A member that may be missing or null. -/
def optional?
    {α : Type}
    (read : Document → Option α) :
    Option Document → Option (Option α)
  | none => some none
  | some .null => some none
  | some d => (read d).map some

end Record

end Courier
