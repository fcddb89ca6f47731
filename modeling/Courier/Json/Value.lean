import Courier.Number.Decimal

/-
  JSON values.

  The members of an object are kept in ascending order of
  their names, one for each name.  `Json.ofMembers` builds
  such an object from any list of members; the last member
  of a name counts.

  Key definitions include:
    * `Json`
    * `Json.insertMember`
    * `Json.ofMembers`
    * `Json.text?`
-/

------------------------------------------------------------
-- Values
------------------------------------------------------------

namespace Courier

/- A JSON value. -/
inductive Json where
| null : Json
| bool : Bool → Json
| number : Number → Json
| text : String → Json
| array : List Json → Json
| object : List (String × Json) → Json
deriving Repr

instance : Inhabited Json :=
  ⟨.null⟩

namespace Json

/- A whole number. -/
def ofNat
    (n : Nat) : Json :=
  .number (.whole n)

/- A whole number of either sign. -/
def ofInt
    (n : Int) : Json :=
  .number (.whole n)

/- The text of a value that is one. -/
def text? : Json → Option String
  | .text s => some s
  | _ => none

end Json

end Courier

------------------------------------------------------------
-- Objects
------------------------------------------------------------

namespace Courier

namespace Json

/-
  Put a member into its place, instead of one of the same
  name.
-/
def insertMember
    (name : String)
    (value : Json) :
    List (String × Json) → List (String × Json)
  | [] => [(name, value)]
  | (other, old) :: rest =>
      if name = other then
        (name, value) :: rest
      else if name < other then
        (name, value) :: (other, old) :: rest
      else
        (other, old) :: insertMember name value rest

/- The object with the given members. -/
def ofMembers
    (members : List (String × Json)) : Json :=
  .object
    (members.foldl
      (fun sorted member =>
        insertMember member.1 member.2 sorted)
      [])

/- The value of a member of an object. -/
def member?
    (name : String) : Json → Option Json
  | .object members => members.lookup name
  | _ => none

end Json

end Courier
